/-
# Routing commands

What a text that begins with a slash asks for. The command is the first word; in a group
it may name the bot after the sign `@`. A command for another bot is ignored. Built-in
commands are spelled exactly; those of the flow in any case.
-/

import Dialogue.Command.Builtin
import Dialogue.Conversation

namespace Dialogue

/-- What a command asks for. -/
inductive CommandRequest where
  | handle (trigger : Trigger)
  | help
  | profile
  /-- The settings of a flow that has none. -/
  | noSettings
  /-- A command for another bot. -/
  | ignore
deriving DecidableEq, Repr

namespace CommandText

/-- The first word after the slash, blanks in front apart. -/
def word? (text : String) : Option (List Char) :=
  match Text.trimStartChars text.toList with
  | '/' :: rest =>
      match (Text.trimStartChars rest).takeWhile (!Text.isBlank ·) with
      | [] => none
      | word => some word
  | _ => none

/-- The name of the command, without the slash and the bot. -/
def name? (text : String) : Option String := do
  let name := (← word? text).takeWhile (· ≠ '@')
  if name.isEmpty then none else return String.ofList name

/-- The bot that the command is for, if it names one. -/
def mention? (text : String) : Option String := do
  let (_, bot) ← Text.splitFirst? '@' (← word? text)
  return String.ofList bot

/-- The built-in command of a text. It stands at the very beginning and ends at the first space. -/
def builtin? (text botName : String) : Option BuiltinCommand :=
  match Text.splitAll (· = '@') (text.toList.takeWhile (· ≠ ' ')) with
  | [] => none
  | command :: mentions =>
      let forUs := mentions.head?.all fun bot =>
        Text.eqIgnoringAsciiCase (String.ofList bot) botName
      if forUs then BuiltinCommand.all.find? fun c => '/' :: c.name.toList = command else none

end CommandText

namespace BuiltinCommand

/-- What a built-in command asks for. -/
def request (c : BuiltinCommand) (flow : Flow) : CommandRequest :=
  match c with
  | .start => .handle .start
  | .help => .help
  | .profile => .profile
  | .settings =>
      match flow.settingsNode with
      | some node => .handle (.enter node)
      | none => .noSettings

end BuiltinCommand

namespace Flow

/-- The first command of the flow with a name, in any case. -/
def commandNamed? (f : Flow) (name : String) : Option Command :=
  f.commands.find? fun c => Text.eqIgnoringAsciiCase (dropSlashes c.command) name

/-- What a command of the flow asks for. -/
def commandRequest (f : Flow) (c : Command) : CommandRequest :=
  match f.commandNode? c.command with
  | some node => .handle (.enter node)
  | none => .handle .start

/-- What a text asks for, if it is a command. -/
def route? (f : Flow) (botName text : String) : Option CommandRequest :=
  if (CommandText.mention? text).any fun bot => !Text.eqIgnoringAsciiCase bot botName then
    some .ignore
  else
    match CommandText.builtin? text botName with
    | some c => some (c.request f)
    | none => ((CommandText.name? text).bind f.commandNamed?).map f.commandRequest

end Flow

end Dialogue
