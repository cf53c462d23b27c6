/-
# Loading a flow

How a flow is written down: a record with a list of nodes, each a record of its own.
Every part has its defaults, and fields that are not known are left alone. Loading a
flow reads the text and then checks the rules.
-/

import Dialogue.Flow.Fault
import Dialogue.Yaml.Reading

namespace Dialogue

/-- The formats by name. -/
def TextFormat.words : List (String × TextFormat) :=
  [("plain", .plain), ("html", .html), ("markdown_v2", .markdownV2)]

/-- The keyboard kinds by name. -/
def KeyboardKind.words : List (String × KeyboardKind) :=
  [("inline", .inline), ("reply", .reply), ("remove", .remove)]

/-- The answer kinds by name. -/
def AnswerKind.words : List (String × AnswerKind) :=
  [("text", .text), ("email", .email), ("number", .number), ("phone", .phone)]

namespace Flow

namespace Loading

open Yaml (Reading)
open Yaml.Reading (text count flag word list fields)

/-- A button as written. -/
def button (n : Yaml.Node) : Reading Button := do
  let fs ← fields ["text", "goto", "value", "url"] n
  return {
    text := ← fs.required "text" text
    goto := ← fs.optional "goto" text
    value := ← fs.optional "value" text
    url := ← fs.optional "url" text }

/-- A keyboard as written. -/
def keyboard (n : Yaml.Node) : Reading Keyboard := do
  let fs ← fields ["kind", "buttons", "columns", "one_time", "resize"] n
  return {
    kind := ← fs.getD "kind" .inline (word KeyboardKind.words)
    buttons := ← fs.getD "buttons" [] (list button)
    columns := ← fs.getD "columns" 1 count
    oneTime := ← fs.getD "one_time" false flag
    resize := ← fs.getD "resize" true flag }

/-- A prompt as written. -/
def prompt (n : Yaml.Node) : Reading Prompt := do
  let fs ← fields ["variable", "type", "min_length", "max_length", "retry_text"] n
  return {
    variableName := ← fs.required "variable" text
    kind := ← fs.getD "type" .text (word AnswerKind.words)
    minLength := ← fs.optional "min_length" count
    maxLength := ← fs.optional "max_length" count
    retryText := ← fs.optional "retry_text" text }

/-- An option of a selection as written. -/
def choice (n : Yaml.Node) : Reading Choice := do
  let fs ← fields ["text", "value"] n
  return { text := ← fs.required "text" text, value := ← fs.optional "value" text }

/-- A selection as written. -/
def multiSelect (n : Yaml.Node) : Reading MultiSelect := do
  let fs ← fields ["variable", "options", "done_text", "min_selected", "columns"] n
  return {
    variableName := ← fs.required "variable" text
    options := ← fs.required "options" (list choice)
    doneText := ← fs.getD "done_text" defaultDoneText text
    minSelected := ← fs.getD "min_selected" 0 count
    columns := ← fs.getD "columns" 1 count }

/-- A node as written. -/
def node (n : Yaml.Node) : Reading Node := do
  let fs ← fields
    ["id", "text", "format", "photo", "keyboard", "input", "multi_select", "variable", "next"] n
  return {
    id := ← fs.required "id" text
    text := ← fs.required "text" text
    format := ← fs.getD "format" .plain (word TextFormat.words)
    photo := ← fs.optional "photo" text
    keyboard := ← fs.optional "keyboard" keyboard
    input := ← fs.optional "input" prompt
    multiSelect := ← fs.optional "multi_select" multiSelect
    variableName := ← fs.optional "variable" text
    next := ← fs.optional "next" text }

/-- A command as written. -/
def command (n : Yaml.Node) : Reading Command := do
  let fs ← fields ["command", "description", "node"] n
  return {
    command := ← fs.required "command" text
    description := ← fs.required "description" text
    node := ← fs.optional "node" text }

/-- A synonym as written. -/
def synonym (n : Yaml.Node) : Reading Synonym := do
  let fs ← fields ["text", "node"] n
  return { text := ← fs.required "text" text, node := ← fs.required "node" text }

/-- A flow as written. -/
def flow (n : Yaml.Node) : Reading Flow := do
  let fs ← fields
    ["name", "start", "nodes", "commands", "synonyms", "help_text", "settings_node",
      "fallback_text", "default_user_name"] n
  return {
    name := ← fs.required "name" text
    start := ← fs.getD "start" defaultStart text
    nodes := ← fs.required "nodes" (list node)
    commands := ← fs.getD "commands" [] (list command)
    synonyms := ← fs.getD "synonyms" [] (list synonym)
    helpText := ← fs.optional "help_text" text
    settingsNode := ← fs.optional "settings_node" text
    fallbackText := ← fs.optional "fallback_text" text
    userName := ← fs.getD "default_user_name" defaultUserName text }

end Loading

/-- The flow that a text describes, its rules unchecked. -/
def parse? (s : String) : Option Flow := Yaml.Reading.run? Loading.flow s

/-- The flow that a text describes, if it keeps all rules. -/
def ofText (s : String) : Except FlowError Flow :=
  match parse? s with
  | none => .error .malformed
  | some flow =>
      match flow.fault? with
      | some e => .error e
      | none => .ok flow

/-- What stands at the path of a flow file. -/
inductive FileContent where
  | bytes (content : ByteArray)
  | missing
  | directory
  /-- A part of the path before its end is no directory. -/
  | notDirectory
  /-- The path, or a part of it, is longer than the system allows. -/
  | longName

/-- Why what stands at a path cannot be read as a text, or the text. -/
def FileContent.read : FileContent → Except String String
  | .missing => .error "No such file or directory (os error 2)"
  | .directory => .error "Is a directory (os error 21)"
  | .notDirectory => .error "Not a directory (os error 20)"
  | .longName => .error "File name too long (os error 36)"
  | .bytes content =>
      match String.fromUTF8? content with
      | some s => .ok s
      | none => .error "stream did not contain valid UTF-8"

/-- Load a flow from what stands at a path. A path with a zero character leads nowhere. -/
def ofFile (path : String) (content : FileContent) : Except FlowError Flow :=
  if path.toList.contains '\x00' then
    .error (.unreadable path "file name contained an unexpected NUL byte")
  else
    match content.read with
    | .ok s => ofText s
    | .error reason => .error (.unreadable path reason)

end Flow

end Dialogue
