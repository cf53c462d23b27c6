/-
# Punycode

Labels of a domain that are not ASCII are written in ASCII: first the characters that are
ASCII already, then a hyphen, then where the others are to be inserted. The insertions
come in ascending order of the characters, each as the distance from the one before, in a
number system whose digit weights adapt to the distances seen so far.
-/

import Dialogue.Text.Split

namespace Dialogue.Url.Punycode

/-- The character of a digit below 36. -/
def digitChar (d : Nat) : Char := if d < 26 then Char.ofNat (97 + d) else Char.ofNat (22 + d)

/-- The digit of a character. -/
def digit? (c : Char) : Option Nat :=
  if c.isLower then some (c.toNat - 97)
  else if c.isUpper then some (c.toNat - 65)
  else if c.isDigit then some (c.toNat - 22)
  else none

/-- The least digit that does not end a number, at a place of the number. -/
def threshold (place bias : Nat) : Nat := min 26 (max 1 (place - bias))

theorem threshold_pos (place bias : Nat) : 0 < threshold place bias := by
  unfold threshold
  omega

/-- Halve a distance until it is small, and count. -/
def shrink (distance rounds : Nat) : Nat × Nat :=
  if h : 455 < distance then shrink (distance / 35) (rounds + 1) else (distance, rounds)
termination_by distance
decreasing_by exact Nat.div_lt_self (by omega) (by omega)

/-- The bias after an insertion. -/
def adapt (distance length : Nat) (first : Bool) : Nat :=
  let scaled := if first then distance / 700 else distance / 2
  let (rest, rounds) := shrink (scaled + scaled / length) 0
  36 * rounds + 36 * rest / (rest + 38)

/-- The digits of a distance. -/
def digits (bias place n : Nat) : List Char :=
  let t := threshold place bias
  if h : n < t then [digitChar n]
  else digitChar (t + (n - t) % (36 - t)) :: digits bias (place + 36) ((n - t) / (36 - t))
termination_by n
decreasing_by
  have := threshold_pos place bias
  exact Nat.lt_of_le_of_lt (Nat.div_le_self _ _) (by omega)

/-- The encoder between two insertions. -/
structure Progress where
  output : List Char := []
  distance : Nat := 0
  bias : Nat := 72
  /-- How many characters have been handled. -/
  handled : Nat

/-- Pass over one character of the text while inserting `target`. -/
def pass (basic : Nat) (target : Nat) (p : Progress) (c : Char) : Progress :=
  if c.toNat < target then { p with distance := p.distance + 1 }
  else if c.toNat = target then
    { output := p.output ++ digits p.bias 36 p.distance
      distance := 0
      bias := adapt p.distance (p.handled + 1) (p.handled = basic)
      handled := p.handled + 1 }
  else p

/-- Insert all characters of the given values, which ascend and are not below `least`. -/
def insertAll (text : List Char) (basic : Nat) : List Nat → Nat → Progress → Progress
  | [], _, p => p
  | target :: rest, least, p =>
      let p := { p with distance := p.distance + (target - least) * (p.handled + 1) }
      let p := text.foldl (pass basic target) p
      insertAll text basic rest (target + 1) { p with distance := p.distance + 1 }

/-- Whether a character is ASCII. -/
def isBasic (c : Char) : Bool := c.toNat < 0x80

/-- A text in ASCII. -/
def encode (text : List Char) : List Char :=
  let basic := text.filter isBasic
  let others := ((text.filter (!isBasic ·)).map Char.toNat).mergeSort.eraseDups
  let separator := if basic.isEmpty then [] else ['-']
  basic ++ separator ++
    (insertAll text basic.length others 128 { handled := basic.length }).output

/-- What the numbers of a written text stay below. -/
def bound : Nat := Nat.pow 2 32

/-- Read a distance; the answer adds it to `total`. -/
def readDistance (bias : Nat) : List Char → Nat → Nat → Nat → Option (Nat × List Char)
  | [], _, _, _ => none
  | c :: rest, place, weight, total =>
      match digit? c with
      | none => none
      | some d =>
          let t := threshold place bias
          let total := total + d * weight
          if bound ≤ total then none
          else if d < t then some (total, rest)
          else if bound ≤ weight * (36 - t) then none
          else readDistance bias rest (place + 36) (weight * (36 - t)) total

theorem length_readDistance {bias : Nat} {cs : List Char} {place weight total : Nat}
    {n : Nat} {rest : List Char}
    (h : readDistance bias cs place weight total = some (n, rest)) : rest.length < cs.length := by
  induction cs generalizing place weight total with
  | nil => simp [readDistance] at h
  | cons c cs ih =>
    simp only [readDistance] at h
    split at h
    · simp at h
    · split at h
      · simp at h
      · split at h
        · simp only [Option.some.injEq, Prod.mk.injEq] at h
          simp [h.2]
        · split at h
          · simp at h
          · have := ih h
            simp only [List.length_cons]
            omega

/-- Read the insertions into a text. -/
def readInsertions (bias point position : Nat) (text : List Char) (cs : List Char) :
    Option (List Char) :=
  if cs.isEmpty then some text
  else
    match _found : readDistance bias cs 36 1 position with
    | none => none
    | some (total, rest) =>
        let length := text.length + 1
        let point' := point + total / length
        if point'.isValidChar then
          readInsertions (adapt (total - position) length (position = 0)) point'
            (total % length + 1) (text.insertIdx (total % length) (Char.ofNat point')) rest
        else none
termination_by cs.length
decreasing_by exact length_readDistance _found

/-- The text that an ASCII text stands for. A hyphen divides only if something stands before it. -/
def decode? (cs : List Char) : Option (List Char) :=
  match Text.splitLast? '-' cs with
  | some ([], _) => none
  | some (basic, digits) => if basic.all isBasic then readInsertions 72 128 0 basic digits else none
  | none => readInsertions 72 128 0 [] cs

end Dialogue.Url.Punycode
