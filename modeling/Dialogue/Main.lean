/-
# The program

Reads the settings, loads the flow and talks to whoever sits at the console. All that is
decided is decided elsewhere; here lines are read and printed.
-/

import Dialogue.Console
import Dialogue.Flow.Loading

namespace Dialogue.Program

/-- The environment variables that a setting may come from. -/
def readEnvironment : IO Environment := do
  let names := Flag.all.filterMap Flag.environmentName
  let values ← names.mapM fun name => do return (← IO.getEnv name).map (name, ·)
  return values.filterMap id

/-- What stands at a path. -/
def readFlowFile (path : String) : IO Flow.FileContent := do
  try
    return .bytes (← IO.FS.readBinFile path)
  catch
    | .inappropriateType _ code _ => return if code = 21 then .directory else .notDirectory
    | .noFileOrDirectory .. => return .missing
    | .invalidArgument _ 36 _ => return .longName
    | e => throw e

/-- Talk until the input ends. -/
partial def talk (input output : IO.FS.Stream) (b : Console.ConsoleBot) : IO Unit := do
  let line ← input.getLine
  if line.isEmpty then return
  let now ← IO.monoMsNow
  let (_, idle) := b.conversation.purge now
  let (_, next) := Console.handleLine { b with conversation := idle } now (Text.trim line)
  for shown in Console.shown b next do
    output.putStrLn shown
  output.flush
  talk input output next

/-- Start with the given settings. -/
def start (settings : Settings) : IO UInt32 := do
  match Flow.ofFile settings.flow (← readFlowFile settings.flow), settings.sessionLifetime? with
  | .error e, _ =>
      IO.eprintln ("Error: " ++ e.message)
      return 1
  | .ok _, none =>
      IO.eprintln "Error: the session lifetime is out of range"
      return 101
  | .ok flow, some lifetime =>
      talk (← IO.getStdin) (← IO.getStdout) (Console.bot flow lifetime)
      return 0

end Dialogue.Program

def main (args : List String) : IO UInt32 := do
  match Dialogue.Settings.ofCommandLine args (← Dialogue.Program.readEnvironment) with
  | .ok settings => Dialogue.Program.start settings
  | .error .displayHelp =>
      IO.print Dialogue.Console.usage
      return 0
  | .error e =>
      IO.eprintln ("error: " ++ Dialogue.Console.complaint e)
      return 2
