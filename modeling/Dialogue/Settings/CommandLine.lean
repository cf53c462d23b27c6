/-
# The command line

How settings are given: by flags with a value each, written after the flag or joined to it
by an equals sign; a setting without a flag may come from the environment, and has a
default otherwise. A flag is taken in only when the next one begins or the line ends, so
that a word which is no argument at all is reported before a bad value in front of it.
-/

import Dialogue.Number.Integer
import Dialogue.Settings.Basic
import Dialogue.Text.Split

namespace Dialogue

/-- The settings that have a flag, in the order in which the environment is asked. -/
inductive Flag where
  | flow
  | tokenVariable
  | databaseUrl
  | apiBaseUrl
  | devDomain
  | apiPort
  | projectId
  | sessionMinutes
deriving DecidableEq, Repr

namespace Flag

/-- All flags. -/
def all : List Flag :=
  [.flow, .tokenVariable, .databaseUrl, .apiBaseUrl, .devDomain, .apiPort, .projectId,
    .sessionMinutes]

/-- The name of a flag, without the hyphens. -/
def name : Flag → String
  | .flow => "flow"
  | .tokenVariable => "bot-token-env"
  | .databaseUrl => "database-url"
  | .apiBaseUrl => "api-base-url"
  | .devDomain => "replit-dev-domain"
  | .apiPort => "api-port"
  | .projectId => "project-id"
  | .sessionMinutes => "session-ttl-minutes"

/-- The environment variable that stands in for a flag. -/
def environmentName : Flag → Option String
  | .flow => some "FLOW_FILE"
  | .tokenVariable => none
  | .databaseUrl => some "DATABASE_URL"
  | .apiBaseUrl => some "API_BASE_URL"
  | .devDomain => some "REPLIT_DEV_DOMAIN"
  | .apiPort => some "API_PORT"
  | .projectId => some "PROJECT_ID"
  | .sessionMinutes => some "SESSION_TTL_MINUTES"

/-- The flag of a name. -/
def ofName? (name : List Char) : Option Flag := all.find? fun f => f.name.toList = name

end Flag

/-- Why a command line is not taken. -/
inductive CommandLineError where
  /-- A word that is no flag and no value. -/
  | unknownArgument
  /-- A flag without a value, or with an empty one that may not be empty. -/
  | invalidValue
  /-- A value that is no number, or one out of range. -/
  | valueValidation
  /-- A flag that is given twice. -/
  | argumentConflict
  /-- A value for a flag that takes none. -/
  | tooManyValues
  /-- The help is asked for. -/
  | displayHelp
deriving DecidableEq, Repr

namespace Settings

/-- Set what a flag stands for, if the value is one for it. -/
def set (s : Settings) (flag : Flag) (value : String) : Except CommandLineError Settings :=
  match flag with
  | .flow => if value.isEmpty then .error .invalidValue else .ok { s with flow := value }
  | .tokenVariable => .ok { s with tokenVariable := value }
  | .databaseUrl => .ok { s with databaseUrl := some value }
  | .apiBaseUrl => .ok { s with apiBaseUrl := some value }
  | .devDomain => .ok { s with devDomain := some value }
  | .apiPort =>
      match Number.readSigned? Number.signed64 value.toList with
      | some n =>
          if 0 ≤ n ∧ n < 65536 then .ok { s with apiPort := n.toNat } else .error .valueValidation
      | none => .error .valueValidation
  | .projectId => .ok { s with projectId := some value }
  | .sessionMinutes =>
      match Number.readSigned? Number.signed64 value.toList with
      | some n => .ok { s with sessionMinutes := n }
      | none => .error .valueValidation

end Settings

/-- A command line that has been read up to some word. -/
structure CommandLine where
  settings : Settings := {}
  /-- The flags that have been taken in. -/
  given : List Flag := []
  /-- The last flag, with its value if that has come already. -/
  pending : Option (Flag × Option String) := none
  /-- Whether two hyphens have ended the flags. -/
  ended : Bool := false

namespace CommandLine

/-- Take in a flag with its value. -/
def take (l : CommandLine) (flag : Flag) (value : Option String) :
    Except CommandLineError CommandLine :=
  match value with
  | none => .error .invalidValue
  | some value =>
      if flag ∈ l.given then .error .argumentConflict
      else do return { l with settings := ← l.settings.set flag value, given := flag :: l.given }

/-- Take in the flag that is pending. -/
def settle (l : CommandLine) : Except CommandLineError CommandLine :=
  match l.pending with
  | none => .ok l
  | some (flag, value) => { l with pending := none }.take flag value

/-- Show the help, unless the pending flag is wrong. -/
def showHelp (l : CommandLine) : Except CommandLineError CommandLine := do
  discard l.settle
  .error .displayHelp

/-- Read what follows two hyphens. -/
def readLong (l : CommandLine) (body : List Char) : Except CommandLineError CommandLine :=
  let name := body.takeWhile (· ≠ '=')
  let attached := (Text.splitFirst? '=' body).map fun (_, value) => String.ofList value
  match Flag.ofName? name, attached with
  | some flag, some value => do (← l.settle).take flag (some value)
  | some flag, none => do return { ← l.settle with pending := some (flag, none) }
  | none, some _ =>
      .error (if name = "help".toList then .tooManyValues else .unknownArgument)
  | none, none => if name = "help".toList then l.showHelp else .error .unknownArgument

/-- Read a word that is no flag: the value of the pending flag, or nothing. -/
def readValue (l : CommandLine) (word : String) : Except CommandLineError CommandLine :=
  match l.pending with
  | some (flag, none) => .ok { l with pending := some (flag, some word) }
  | _ => .error .unknownArgument

/-- Read one word. -/
def readWord (l : CommandLine) (word : String) : Except CommandLineError CommandLine :=
  if l.ended then .error .unknownArgument
  else
    match word.toList with
    | ['-', '-'] => .ok { l with ended := true }
    | '-' :: '-' :: body => l.readLong body
    | '-' :: 'h' :: _ => l.showHelp
    | '-' :: _ :: _ => .error .unknownArgument
    | _ => l.readValue word

/-- Fill in from the environment what no flag has set. -/
def fillIn (env : Environment) (l : CommandLine) (flag : Flag) :
    Except CommandLineError CommandLine :=
  match flag.environmentName.bind (env.lookup ·) with
  | some value => if flag ∈ l.given then .ok l else l.take flag (some value)
  | none => .ok l

end CommandLine

/-- The settings that a command line and an environment give. -/
def Settings.ofCommandLine (words : List String) (env : Environment) :
    Except CommandLineError Settings := do
  let l ← words.foldlM CommandLine.readWord {}
  let l ← l.settle
  let l ← Flag.all.foldlM (CommandLine.fillIn env) l
  return l.settings

end Dialogue
