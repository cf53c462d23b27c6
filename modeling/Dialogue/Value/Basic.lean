/-
# Stored values

What a profile holds under a variable: text, a list of texts, or any other value of
the usual interchange notation. A record keeps its fields in ascending order of
name, a later field of the same name taking the place of an earlier one.

`compact` writes a value in that notation without blanks; `display` writes it for a
person, a list as its items side by side and nothing for an absent value.
-/

import Dialogue.Table
import Dialogue.Number.Shortest

namespace Dialogue

open Number (Binary64)

/-- A stored value. -/
inductive Value where
  | null
  | bool (b : Bool)
  | int (n : Int)
  | double (x : Binary64)
  | text (s : String)
  | list (items : List Value)
  | record (fields : List (String × Value))
deriving Inhabited, Repr

namespace Value

/-- The record with the given fields. -/
def ofFields (fields : List (String × Value)) : Value :=
  .record (fields.foldl (fun sorted field => Table.insertIn field.1 field.2 sorted) [])

/-- The list of some texts. -/
def ofTexts (texts : List String) : Value := .list (texts.map .text)

/-- The field of a record. -/
def field? : Value → String → Option Value
  | .record fields, name => Table.lookupIn name fields
  | _, _ => none

section Compact

/-- The hexadecimal digit of a number below sixteen. -/
def hexDigit (n : Nat) : Char := Nat.digitChar (n % 16)

/-- A character inside quotes. Quotes, backslashes and control characters are escaped. -/
def quotedChar (c : Char) : List Char :=
  if c = '"' then ['\\', '"']
  else if c = '\\' then ['\\', '\\']
  else if c = '\n' then ['\\', 'n']
  else if c = '\r' then ['\\', 'r']
  else if c = '\t' then ['\\', 't']
  else if c.toNat = 8 then ['\\', 'b']
  else if c.toNat = 12 then ['\\', 'f']
  else if c.toNat < 0x20 then
    ['\\', 'u', '0', '0', hexDigit (c.toNat / 16), hexDigit c.toNat]
  else [c]

/-- A text in quotes. -/
def quoted (s : String) : String :=
  String.ofList ('"' :: s.toList.flatMap quotedChar ++ ['"'])

/-- How far decimals are written without an exponent: from `leastPlain` to `greatestPlain`. -/
def leastPlain : Int := -5

@[inherit_doc leastPlain]
def greatestPlain : Int := 15

/-- A double in its shortest digits. A number of moderate size has a decimal point and at least
one digit on each side of it; others have an exponent with its sign. -/
def doubleText (x : Binary64) : String :=
  let d := x.shortest
  let digits := Nat.toDigits 10 d.digits
  let magnitude := d.exponent + digits.length - 1
  let body :=
    if leastPlain ≤ magnitude ∧ magnitude ≤ greatestPlain then
      if magnitude < 0 then
        '0' :: '.' :: List.replicate (-magnitude - 1).toNat '0' ++ digits
      else
        let whole := magnitude.toNat + 1
        let fraction := digits.drop whole
        digits.take whole ++ List.replicate (whole - digits.length) '0' ++
          '.' :: (if fraction.isEmpty then ['0'] else fraction)
    else
      let fraction := digits.drop 1
      digits.take 1 ++ (if fraction.isEmpty then [] else '.' :: fraction) ++
        'e' :: (if magnitude < 0 then '-' else '+') :: Nat.toDigits 10 magnitude.natAbs
  String.ofList (if x.negative then '-' :: body else body)

mutual

/-- A value in interchange notation, without blanks. -/
def compact : Value → String
  | .null => "null"
  | .bool b => if b then "true" else "false"
  | .int n => toString n
  | .double x => doubleText x
  | .text s => quoted s
  | .list items => "[" ++ ",".intercalate (compactItems items) ++ "]"
  | .record fields => "\x7b" ++ ",".intercalate (compactFields fields) ++ "\x7d"

/-- The items of a list, each in interchange notation. -/
def compactItems : List Value → List String
  | [] => []
  | item :: rest => compact item :: compactItems rest

/-- The fields of a record, each as its name and value in interchange notation. -/
def compactFields : List (String × Value) → List String
  | [] => []
  | (name, value) :: rest => (quoted name ++ ":" ++ compact value) :: compactFields rest

end

end Compact

mutual

/-- A value for a person to read. -/
def display : Value → String
  | .null => ""
  | .text s => s
  | .list items => ", ".intercalate (displayItems items)
  | .bool b => compact (.bool b)
  | .int n => compact (.int n)
  | .double x => compact (.double x)
  | .record fields => compact (.record fields)

/-- The items of a list, each for a person to read. -/
def displayItems : List Value → List String
  | [] => []
  | item :: rest => display item :: displayItems rest

end

mutual

/-- Whether two values are the same. -/
def same : Value → Value → Bool
  | .null, .null => true
  | .bool a, .bool b => a = b
  | .int a, .int b => a = b
  | .double a, .double b => a = b
  | .text a, .text b => a = b
  | .list a, .list b => sameItems a b
  | .record a, .record b => sameFields a b
  | _, _ => false

/-- Whether two lists of values are the same. -/
def sameItems : List Value → List Value → Bool
  | [], [] => true
  | a :: s, b :: t => same a b && sameItems s t
  | _, _ => false

/-- Whether two lists of fields are the same. -/
def sameFields : List (String × Value) → List (String × Value) → Bool
  | [], [] => true
  | (m, a) :: s, (n, b) :: t => m = n && same a b && sameFields s t
  | _, _ => false

end

mutual

theorem same_iff : ∀ a b : Value, same a b = true ↔ a = b
  | .null, b => by cases b <;> simp [same]
  | .bool _, b => by cases b <;> simp [same]
  | .int _, b => by cases b <;> simp [same]
  | .double _, b => by cases b <;> simp [same]
  | .text _, b => by cases b <;> simp [same]
  | .list s, b => by cases b <;> simp [same, sameItems_iff s]
  | .record s, b => by cases b <;> simp [same, sameFields_iff s]

theorem sameItems_iff : ∀ s t : List Value, sameItems s t = true ↔ s = t
  | [], t => by cases t <;> simp [sameItems]
  | a :: s, t => by cases t <;> simp [sameItems, same_iff a, sameItems_iff s]

theorem sameFields_iff : ∀ s t : List (String × Value), sameFields s t = true ↔ s = t
  | [], t => by cases t <;> simp [sameFields]
  | (m, a) :: s, t => by
      cases t <;> simp [sameFields, same_iff a, sameFields_iff s, Prod.ext_iff]

end

instance : DecidableEq Value := fun a b => decidable_of_iff _ (same_iff a b)

end Value

end Dialogue
