/-
# Typed readings of a document

What a node means where a text, a number, a flag, one of some words, a list or a
record is expected. A text may be any scalar, whatever it looks like; numbers and
flags must be plain, or a literal block with the tag of their kind. An absent value is
an empty plain scalar, and where something optional is expected also one of the words
for nothing. Otherwise tags matter in two places only: a local tag may name one of the
expected words, and where something optional is expected a word for nothing means
nothing only without a tag or with the tag of nothing.

A reading follows aliases. Their number is limited in proportion to the size of the
document, so that a small text cannot stand for a huge one.
-/

import Dialogue.Yaml.Node
import Dialogue.Yaml.Token.Lexer
import Dialogue.Number.Integer
import Dialogue.Value.Reading

namespace Dialogue.Yaml

/-- A reading of a document. It may fail, and it counts the aliases that it follows. -/
abbrev Reading := ReaderT Document (StateT Nat Option)

namespace Reading

/-- Refuse the document. -/
def refuse {α : Type} : Reading α := fun _ _ => none

/-- How many aliases a reading may follow. -/
def maxAliases (d : Document) : Nat := 100 * d.root.steps

/-- The node itself, or the one that an alias stands for. -/
def resolve : Node → Reading Node
  | .alias number => do
      let d ← read
      let followed ← get
      set (followed + 1)
      if maxAliases d < followed + 1 then refuse
      else match d.target? number with
        | some node => pure node
        | none => refuse
  | node => pure node

/-- Whether a scalar is one of the words for nothing. -/
def isNothingWord (s : String) : Bool := s = "~" || s = "null" || s = "Null" || s = "NULL"

/-- The tag of nothing. -/
def nothingTag : TagBytes := .ofText "tag:yaml.org,2002:null"

/-- The tag of whole numbers. -/
def numberTag : TagBytes := .ofText "tag:yaml.org,2002:int"

/-- The tag of flags. -/
def flagTag : TagBytes := .ofText "tag:yaml.org,2002:bool"

/-- Whether a scalar may stand for a value of the kind that has the given tag. -/
def speaksFor (kind : TagBytes) (style : ScalarStyle) (tag : Option TagBytes) : Bool :=
  style = .plain || (style = .literal && tag = some kind)

/-- A text. -/
def text (n : Node) : Reading String := do
  match ← resolve n with
  | .scalar s _ _ => pure s
  | _ => refuse

/-- A number in decimal digits without leading zeros, or in hexadecimal, octal or binary digits
after `0x`, `0o` or `0b`; a plus sign may stand in front. -/
def number? (s : String) : Option Nat :=
  let cs := Number.dropPlus s.toList
  let n := match cs with
    | '0' :: 'x' :: digits => Number.ofDigitsIn? 16 digits
    | '0' :: 'o' :: digits => Number.ofDigitsIn? 8 digits
    | '0' :: 'b' :: digits => Number.ofDigitsIn? 2 digits
    | '0' :: _ :: _ => none
    | digits => Number.ofDigits? digits
  n.filter (· < Number.unsigned64)

/-- A natural number below 2 to the 64. -/
def count (n : Node) : Reading Nat := do
  match ← resolve n with
  | .scalar s style tag =>
      match number? s with
      | some k => if speaksFor numberTag style tag then pure k else refuse
      | none => refuse
  | _ => refuse

/-- A flag. -/
def flag (n : Node) : Reading Bool := do
  match ← resolve n with
  | .scalar s style tag =>
      if !speaksFor flagTag style tag then refuse
      else if s = "true" || s = "True" || s = "TRUE" then pure true
      else if s = "false" || s = "False" || s = "FALSE" then pure false
      else refuse
  | _ => refuse

/-- One of some words, written out or as a local tag before nothing. -/
def word {α : Type} (words : List (String × α)) (n : Node) : Reading α := do
  let pick (name : String) : Reading α :=
    match Table.lookupIn name words with
    | some value => pure value
    | none => refuse
  match ← resolve n with
  | .scalar s style tag =>
      match tag.bind TagBytes.localName? with
      | some name => if style = .plain && (s.isEmpty || isNothingWord s) then pick name else refuse
      | none => pick s
  | _ => refuse

/-- Something optional. -/
def optional {α : Type} (inner : Node → Reading α) (n : Node) : Reading (Option α) := do
  match ← resolve n with
  | .scalar s .plain none =>
      if s.isEmpty || isNothingWord s then pure none else some <$> inner (.scalar s .plain none)
  | .scalar s .plain (some tag) =>
      if tag = nothingTag then
        if isNothingWord s then pure none else refuse
      else some <$> inner (.scalar s .plain (some tag))
  | node => some <$> inner node

/-- A list. -/
def list {α : Type} (inner : Node → Reading α) (n : Node) : Reading (List α) := do
  match ← resolve n with
  | .sequence _ items => items.mapM inner
  | .scalar "" .plain _ => pure []
  | _ => refuse

/-- The known fields of a record. -/
abbrev Fields := List (String × Node)

/-- The fields among some entries that are known. A known field may stand only once; a key that is
no scalar is refused even if it is unknown. -/
def fieldsOf (known : List String) : List (Node × Node) → Reading Fields
  | [] => pure []
  | (key, value) :: rest => do
      let name ← text key
      let fields ← fieldsOf known rest
      if !known.contains name then pure fields
      else if fields.any (·.1 = name) then refuse
      else pure ((name, value) :: fields)

/-- The known fields of a record. -/
def fields (known : List String) (n : Node) : Reading Fields := do
  match ← resolve n with
  | .mapping _ entries => fieldsOf known entries
  | .scalar "" .plain _ => pure []
  | _ => refuse

/-- A field that must be there. -/
def Fields.required {α : Type} (fields : Fields) (name : String) (inner : Node → Reading α) :
    Reading α :=
  match Table.lookupIn name fields with
  | some node => inner node
  | none => refuse

/-- A field with a value for its absence. -/
def Fields.getD {α : Type} (fields : Fields) (name : String) (absent : α)
    (inner : Node → Reading α) : Reading α :=
  match Table.lookupIn name fields with
  | some node => inner node
  | none => pure absent

/-- A field whose value is optional. -/
def Fields.optional {α : Type} (fields : Fields) (name : String) (inner : Node → Reading α) :
    Reading (Option α) :=
  fields.getD name none (Reading.optional inner)

end Reading

/-- Read a whole text. -/
def Reading.run? {α : Type} (reading : Node → Reading α) (s : String) : Option α := do
  let d ← Document.ofTokens? (← Token.ofChars? s.toList)
  let (value, _) ← (reading d.root).run d |>.run 0
  return value

end Dialogue.Yaml
