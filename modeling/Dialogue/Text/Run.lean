/-
# Tables of characters

A table says something about the characters of many scripts. It lists runs of neighbouring
characters in ascending order, each with a value of its own, and a look-up halves the list
until one run is left.

A table is written as a text. Entries stand between blanks; an entry is the number of a
character in hexadecimal digits, or the first and the last number of a run with a hyphen
between them, and then perhaps an equals sign and the value.
-/

import Dialogue.Number.Integer
import Dialogue.Text.Split

namespace Dialogue.Text

/-- A run of neighbouring characters, by their numbers, with a value. -/
structure Run (α : Type) where
  first : Nat
  last : Nat
  value : α

/-- Runs in ascending order. -/
abbrev RunTable (α : Type) := Array (Run α)

namespace RunTable

variable {α : Type}

/-- The place of the last run that does not begin after a number, among the places from `low` up
to but not including `high`. The first of them is the answer where there is no such run. -/
def seek (t : RunTable α) (n low high : Nat) : Nat :=
  if h : low + 1 < high then
    let middle := (low + high) / 2
    if t[middle]?.any (·.first ≤ n) then t.seek n middle high else t.seek n low middle
  else low
termination_by high - low
decreasing_by all_goals omega

/-- The run that holds a number. -/
def find? (t : RunTable α) (n : Nat) : Option (Run α) :=
  t[t.seek n 0 t.size]?.filter fun run => run.first ≤ n && n ≤ run.last

/-- One entry of a written table. -/
def row? (value? : List Char → Option α) (cs : List Char) : Option (Run α) := do
  let (keys, value) := (splitFirst? '=' cs).getD (cs, [])
  let (first, last) := (splitFirst? '-' keys).getD (keys, keys)
  return {
    first := ← Number.ofDigitsIn? 16 first
    last := ← Number.ofDigitsIn? 16 last
    value := ← value? value }

/-- The table that a text describes. What is no entry is left out. -/
def ofText (value? : List Char → Option α) (s : String) : RunTable α :=
  ((splitAll (fun c => c = ' ' || c = '\n') s.toList).filterMap (row? value?)).toArray

end RunTable

/-- A set of characters. -/
abbrev CharSet := RunTable Unit

namespace CharSet

/-- The set that a text describes. -/
def ofText (s : String) : CharSet := RunTable.ofText (fun _ => some ()) s

/-- Whether the set holds a character. -/
def contains (set : CharSet) (c : Char) : Bool := (RunTable.find? set c.toNat).isSome

end CharSet

/-- A table of characters and what each of them is replaced by. The value of a run belongs to its
first character; if it is a single character, the others go to its neighbours in parallel. -/
abbrev Replacements := RunTable (List Nat)

namespace Replacements

/-- The numbers of some characters, with dots between them. -/
def numbers? (cs : List Char) : Option (List Nat) :=
  if cs.isEmpty then some [] else (splitAll (· = '.') cs).mapM (Number.ofDigitsIn? 16)

/-- The table that a text describes. -/
def ofText (s : String) : Replacements := RunTable.ofText numbers? s

/-- What a character is replaced by, if the table lists it. -/
def get? (t : Replacements) (c : Char) : Option (List Char) :=
  (RunTable.find? t c.toNat).map fun run =>
    run.value.map fun n => Char.ofNat (n + (c.toNat - run.first))

end Replacements

end Dialogue.Text
