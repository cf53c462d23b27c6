/-
# Built-in commands

The commands that every bot understands. They win over commands of the flow that have
the same name.
-/

import Dialogue.Text.Case

namespace Dialogue

/-- A command that every bot understands. -/
inductive BuiltinCommand where
  | start
  | help
  | settings
  | profile
deriving DecidableEq, Repr

namespace BuiltinCommand

/-- All of them, in the order of the menu. -/
def all : List BuiltinCommand := [.start, .help, .settings, .profile]

/-- The name, without a slash. -/
def name : BuiltinCommand → String
  | .start => "start"
  | .help => "help"
  | .settings => "settings"
  | .profile => "profile"

/-- What the command does, for the menu. -/
def description : BuiltinCommand → String
  | .start => "начать сначала"
  | .help => "показать справку"
  | .settings => "открыть настройки"
  | .profile => "показать сохраненные ответы"

/-- Whether a name is that of a built-in command, in any case. -/
def isName (s : String) : Bool := all.any fun c => Text.eqIgnoringAsciiCase c.name s

end BuiltinCommand

end Dialogue
