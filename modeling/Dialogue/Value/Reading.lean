/-
# Reading values

The reader of the interchange notation that `Value.compact` writes. Blanks may stand
between the parts, a text may be escaped more than it has to be, and of two fields
of one name the later one counts.

A number without fraction and exponent is an integer as long as it fits sixty-four
bits. Any other number is a double made of its leading digits and a power of ten:
digits that would carry the leading part past sixty-four bits are left out.
-/

import Dialogue.Value.Basic
import Dialogue.Number.Integer

namespace Dialogue.Value

open Number (Binary64 unsigned64 signed64 hexDigit?)

/-- The characters after the blanks of the notation. -/
def skipBlanks (cs : List Char) : List Char :=
  cs.dropWhile fun c => c = ' ' || c = '\t' || c = '\n' || c = '\r'

/-- The sixteen-bit unit of four hexadecimal digits. -/
def unit? (a b c d : Char) : Option Nat := do
  return (((← hexDigit? a) * 16 + (← hexDigit? b)) * 16 + (← hexDigit? c)) * 16 + (← hexDigit? d)

/-- The character of an escape of one letter. -/
def escaped? (c : Char) : Option Char :=
  match c with
  | '"' => some '"'
  | '\\' => some '\\'
  | '/' => some '/'
  | 'b' => some (Char.ofNat 8)
  | 'f' => some (Char.ofNat 12)
  | 'n' => some '\n'
  | 'r' => some '\r'
  | 't' => some '\t'
  | _ => none

/-- The text up to the closing quote, and what follows it. The second argument holds the
characters read so far, the last one first. -/
def readQuoted : List Char → List Char → Option (String × List Char)
  | '"' :: rest, done => some (String.ofList done.reverse, rest)
  | '\\' :: 'u' :: a :: b :: c :: d :: rest, done =>
      match unit? a b c d with
      | none => none
      | some unit =>
          if 0xD800 ≤ unit && unit < 0xDC00 then
            match rest with
            | '\\' :: 'u' :: e :: f :: g :: h :: rest =>
                match unit? e f g h with
                | none => none
                | some low =>
                    if 0xDC00 ≤ low && low < 0xE000 then
                      readQuoted rest
                        (Char.ofNat (0x10000 + (unit - 0xD800) * 0x400 + (low - 0xDC00)) :: done)
                    else none
            | _ => none
          else if 0xDC00 ≤ unit && unit < 0xE000 then none
          else readQuoted rest (Char.ofNat unit :: done)
  | '\\' :: c :: rest, done =>
      match escaped? c with
      | none => none
      | some e => readQuoted rest (e :: done)
  | c :: rest, done => if c.toNat < 0x20 then none else readQuoted rest (c :: done)
  | [], _ => none

section Numbers

/-- The leading digits of a number: their value, how many more were left out, and how many of
them stand after the point. -/
structure Leading where
  value : Nat
  dropped : Nat
  places : Nat

/-- Take up the digits before the point, until one does not fit any more. -/
def Leading.takeWhole (digits : List Char) : Leading :=
  digits.foldl
    (fun l c =>
      let value := l.value * 10 + (c.toNat - '0'.toNat)
      if l.dropped = 0 && value < unsigned64 then ⟨value, 0, 0⟩ else ⟨l.value, l.dropped + 1, 0⟩)
    ⟨0, 0, 0⟩

/-- Take up the digits after the point, until one does not fit any more. -/
def Leading.takeFraction (l : Leading) : List Char → Leading
  | [] => l
  | c :: rest =>
      let value := l.value * 10 + (c.toNat - '0'.toNat)
      if value < unsigned64 then Leading.takeFraction ⟨value, l.dropped, l.places + 1⟩ rest else l

/-- The exponent after the letter `e`, and what follows it. -/
def readExponent (cs : List Char) : Option (Int × List Char) :=
  let (negative, cs) :=
    match cs with
    | '+' :: rest => (false, rest)
    | '-' :: rest => (true, rest)
    | cs => (false, cs)
  match Number.ofDigits? (cs.takeWhile Char.isDigit) with
  | none => none
  | some n => some (if negative then -(n : Int) else n, cs.dropWhile Char.isDigit)

/-- The double of a number's leading digits and exponent. -/
def Leading.double? (negative : Bool) (l : Leading) (exponent : Int) : Option Value :=
  (Binary64.ofParts? negative l.value (exponent + l.dropped - l.places)).map .double

/-- A whole number; minus zero and numbers that fit no sixty-four bits are doubles. -/
def Leading.whole? (negative : Bool) (l : Leading) : Option Value :=
  if l.dropped = 0 && !negative then some (.int l.value)
  else if l.dropped = 0 && 0 < l.value && l.value ≤ signed64 then some (.int (-(l.value : Int)))
  else l.double? negative 0

/-- The number at the head of the characters, and what follows it. -/
def readNumber (cs : List Char) : Option (Value × List Char) := do
  let (negative, cs) :=
    match cs with
    | '-' :: rest => (true, rest)
    | cs => (false, cs)
  let digits := cs.takeWhile Char.isDigit
  let rest := cs.dropWhile Char.isDigit
  if digits.isEmpty || (digits.head? = some '0' && digits.length != 1) then none
  else
    let whole := Leading.takeWhole digits
    let (fraction, rest, pointed) :=
      match rest with
      | '.' :: tail => (tail.takeWhile Char.isDigit, tail.dropWhile Char.isDigit, true)
      | rest => ([], rest, false)
    if pointed && fraction.isEmpty then none
    else
      let leading := whole.takeFraction fraction
      match rest with
      | 'e' :: tail | 'E' :: tail =>
          let (exponent, rest) ← readExponent tail
          return (← leading.double? negative exponent, rest)
      | rest =>
          if pointed then return (← leading.double? negative 0, rest)
          else return (← leading.whole? negative, rest)

end Numbers

mutual

/-- The value at the head of the characters, and what follows it. The first argument bounds the
number of values and separators; twice the number of characters is enough. -/
def readValue : Nat → List Char → Option (Value × List Char)
  | 0, _ => none
  | fuel + 1, cs =>
      match skipBlanks cs with
      | 'n' :: 'u' :: 'l' :: 'l' :: rest => some (.null, rest)
      | 't' :: 'r' :: 'u' :: 'e' :: rest => some (.bool true, rest)
      | 'f' :: 'a' :: 'l' :: 's' :: 'e' :: rest => some (.bool false, rest)
      | '"' :: rest => (readQuoted rest []).map fun (s, rest) => (.text s, rest)
      | '[' :: rest =>
          match skipBlanks rest with
          | ']' :: rest => some (.list [], rest)
          | rest => (readItems fuel rest).map fun (items, rest) => (.list items, rest)
      | '{' :: rest =>
          match skipBlanks rest with
          | '}' :: rest => some (.record [], rest)
          | rest => (readFields fuel rest).map fun (fields, rest) => (ofFields fields, rest)
      | cs => readNumber cs

/-- The items of a list up to the closing bracket. -/
def readItems : Nat → List Char → Option (List Value × List Char)
  | 0, _ => none
  | fuel + 1, cs => do
      let (item, rest) ← readValue fuel cs
      match skipBlanks rest with
      | ',' :: rest =>
          let (items, rest) ← readItems fuel rest
          return (item :: items, rest)
      | ']' :: rest => return ([item], rest)
      | _ => none

/-- The fields of a record up to the closing brace. -/
def readFields : Nat → List Char → Option (List (String × Value) × List Char)
  | 0, _ => none
  | fuel + 1, cs => do
      match skipBlanks cs with
      | '"' :: rest =>
          let (name, rest) ← readQuoted rest []
          match skipBlanks rest with
          | ':' :: rest =>
              let (value, rest) ← readValue fuel rest
              match skipBlanks rest with
              | ',' :: rest =>
                  let (fields, rest) ← readFields fuel rest
                  return ((name, value) :: fields, rest)
              | '}' :: rest => return ([(name, value)], rest)
              | _ => none
          | _ => none
      | _ => none

end

/-- The value that a whole text stands for. -/
def parse? (s : String) : Option Value :=
  let cs := s.toList
  match readValue (2 * cs.length + 2) cs with
  | some (value, rest) => if (skipBlanks rest).isEmpty then some value else none
  | none => none

end Dialogue.Value
