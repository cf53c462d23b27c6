/-
# Menu and help

What a bot says about its commands, and about the answers of a user. Commands of the flow
that a built-in one hides are left out.
-/

import Dialogue.Command.Builtin
import Dialogue.Flow.Basic

namespace Dialogue

/-- An entry of the menu: a name without its slash, and what the command does. -/
structure MenuEntry where
  name : String
  description : String
deriving DecidableEq, Repr

/-- The built-in commands, as the help lists them. -/
def builtinHelp : String :=
  "Commands every flow bot understands\nДоступные команды:\n\n" ++
    "\n".intercalate (BuiltinCommand.all.map fun c => s!"/{c.name} — {c.description}")

namespace Flow

/-- The entry of a command, unless a built-in one hides it. -/
def menuEntry? (c : Command) : Option MenuEntry :=
  let name := Text.lower (dropSlashes c.command)
  if BuiltinCommand.isName name then none else some ⟨name, c.description⟩

/-- The menu: the built-in commands, then those of the flow. -/
def menu (f : Flow) : List MenuEntry :=
  BuiltinCommand.all.map (fun c => ⟨c.name, c.description⟩) ++ f.commands.filterMap menuEntry?

/-- The line of a command in the help. -/
def helpLine (c : Command) : String :=
  let name := dropSlashes c.command
  if BuiltinCommand.isName name then "" else s!"\n/{name} - {c.description}"

/-- The help of a bot. -/
def help (f : Flow) : String :=
  f.helpText.getD ("🤖 " ++ f.name) ++ "\n\n" ++ builtinHelp ++
    String.join (f.commands.map helpLine)

end Flow

/-- The answers of a user as the bot lists them. -/
def profileText (lines : List (String × String)) : String :=
  if lines.isEmpty then "📋 Вы еще ничего не ответили."
  else "📋 Ваши ответы:" ++ String.join (lines.map fun (key, value) => s!"\n• {key}: {value}")

/-- What is said about the settings of a flow that has none. -/
def noSettingsText : String := "⚙️ Настройки пока недоступны."

end Dialogue
