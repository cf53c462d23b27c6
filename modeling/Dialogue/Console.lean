/-
# The console

A bot can be tried without a messenger: every line that is typed is a message, or a press
of a button if it begins with a backslash, and every call of the bot is shown as text.
Here the messenger is one that accepts everything.
-/

import Dialogue.Bot
import Dialogue.Profile.Fallback
import Dialogue.Settings.CommandLine

namespace Dialogue

namespace Console

/-- The bot of the console. -/
abbrev ConsoleBot := Bot (FallbackStore MemoryStore)

/-- Who sits at the console. -/
def user : User := { id := 1 }

/-- The chat of the console. -/
def chat : ChatId := 1

/-- The name of the bot of the console. -/
def botName : String := "console"

/-- A bot for a flow. -/
def bot (flow : Flow) (lifetime : Int) : ConsoleBot where
  flow := flow
  name := botName
  conversation := { sessions := { lifetime }, profiles := {} }
  outbox := { messenger := { answer := fun _ _ => .accepted none } }

/-- The number of the last message of the bot. -/
def lastMessage (b : ConsoleBot) : MessageId := nextNumber b.outbox.messenger.log - 1

/-- Handle a line. -/
def handleLine (b : ConsoleBot) (now : Time) (line : String) : Handled × ConsoleBot :=
  match line.toList with
  | '\\' :: data =>
      b.handlePress now
        { query := "console", sender := user, data := some (String.ofList data),
          message := some (chat, lastMessage b) }
  | _ => b.handleMessage now { chat, id := 1, sender := some user, text := some line }

/-- A row of buttons as text. -/
def rowText (labels : List String) : String :=
  "  " ++ " ".intercalate (labels.map fun label => "[" ++ label ++ "]")

/-- An inline button as text: its label and what its press or its address is. -/
def buttonText : InlineButton → String
  | .callback label data => label ++ " \\" ++ data
  | .link label url => label ++ " " ++ url.text

/-- The lines that a call shows. -/
def callLines : Call → List String
  | .sendMessage _ text _ markup | .sendPhoto _ _ text _ markup =>
      text :: match markup with
        | some (.keyboard rows _ _) => rows.map rowText
        | _ => []
  | .editText _ _ text _ => [text]
  | .editMarkup _ _ markup => markup.map fun row => rowText (row.map buttonText)
  | .answerCallback _ | .setCommands _ => []

/-- The lines that a bot has shown since an earlier state of it. -/
def shown (before after : ConsoleBot) : List String :=
  (after.outbox.messenger.log.drop before.outbox.messenger.log.length).flatMap fun e =>
    callLines e.call

/-- How the program is called. -/
def usage : String :=
  "Usage: dialogue [OPTIONS]\n\nOptions:\n" ++
    String.join (Flag.all.map fun f => s!"  --{f.name} <VALUE>\n") ++ "  -h, --help\n"

/-- What is said about a command line that is not taken. -/
def complaint : CommandLineError → String
  | .unknownArgument => "unexpected argument"
  | .invalidValue => "a value is required"
  | .valueValidation => "invalid value"
  | .argumentConflict => "an argument cannot be used multiple times"
  | .tooManyValues => "unexpected value"
  | .displayHelp => usage

end Console

end Dialogue
