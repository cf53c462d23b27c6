/-
# Canonical forms

Many characters with marks can be written in several ways: as one character, or as a letter
and its marks, and the marks in several orders. The canonical form takes every character
apart, puts the marks in order and composes again what composes. Two texts that are meant to
look alike have the same canonical form.
-/

import Dialogue.Text.Canonical.Table

namespace Dialogue.Text

namespace Canonical

/-- The class of a character: zero for whatever is no mark. -/
def classOf (c : Char) : Nat := ((classes.find? c.toNat).map Run.value).getD 0

section Syllables

/-- The first of the Korean syllables. -/
def firstSyllable : Nat := 0xAC00

/-- The first of the letters that begin a syllable, of the vowels, and of the letters that end a
syllable. The last of them stands for no letter at all. -/
def firstInitial : Nat := 0x1100

@[inherit_doc firstInitial]
def firstVowel : Nat := 0x1161

@[inherit_doc firstInitial]
def firstFinal : Nat := 0x11A7

/-- How many letters of each kind there are. -/
def initialCount : Nat := 19

@[inherit_doc initialCount]
def vowelCount : Nat := 21

@[inherit_doc initialCount]
def finalCount : Nat := 28

/-- The place of a character among the Korean syllables. -/
def syllable? (c : Char) : Option Nat :=
  if firstSyllable ≤ c.toNat &&
      c.toNat < firstSyllable + initialCount * vowelCount * finalCount then
    some (c.toNat - firstSyllable)
  else none

/-- The letters of a syllable. -/
def letters (place : Nat) : List Char :=
  let final := place % finalCount
  let vowel := place / finalCount % vowelCount
  let initial := place / finalCount / vowelCount
  [Char.ofNat (firstInitial + initial), Char.ofNat (firstVowel + vowel)] ++
    if final = 0 then [] else [Char.ofNat (firstFinal + final)]

/-- The place of a letter among its kind. -/
def letter? (first count : Nat) (c : Char) : Option Nat :=
  if first ≤ c.toNat && c.toNat < first + count then some (c.toNat - first) else none

/-- The syllable of an initial letter and a vowel, or of a syllable without a final letter and
one. -/
def joinLetters? (c d : Char) : Option Char :=
  match letter? firstInitial initialCount c, letter? firstVowel vowelCount d with
  | some initial, some vowel =>
      some (Char.ofNat (firstSyllable + (initial * vowelCount + vowel) * finalCount))
  | _, _ =>
      match syllable? c, letter? firstFinal finalCount d with
      | some place, some final =>
          if place % finalCount = 0 && final ≠ 0 then some (Char.ofNat (c.toNat + final)) else none
      | _, _ => none

end Syllables

/-- A character taken apart. -/
def decompose (c : Char) : List Char :=
  match syllable? c with
  | some place => letters place
  | none => (decompositions.get? c).getD [c]

/-- Put a character before a text in which the marks are in order. A mark goes behind the marks of
lower classes that the text begins with. -/
def place (c : Char) : List Char → List Char
  | [] => [c]
  | d :: rest =>
      if 0 < classOf d && classOf d < classOf c then d :: place c rest else c :: d :: rest

/-- Put all marks in order. -/
def order (cs : List Char) : List Char := cs.foldr place []

/-- What a character becomes that stands at an odd place of a list, after another one. -/
def partner? (d : Nat) : List Nat → Option Nat
  | next :: composed :: rest => if next = d then some composed else partner? d rest
  | _ => none

/-- The character that two characters compose into. -/
def join? (c d : Char) : Option Char :=
  match joinLetters? c d with
  | some syllable => some syllable
  | none => do
      let run ← compositions.find? c.toNat
      return Char.ofNat (← partner? d.toNat run.value)

/-- Compose a text onto its beginning: a character, and the marks on it that do not compose, the
last of them first. A mark composes only if no mark of its own class or a higher one stands
between. -/
def composeOnto (c : Char) (marks : List Char) : List Char → List Char
  | [] => c :: marks.reverse
  | d :: rest =>
      let isFree := marks.head?.all fun last => classOf last < classOf d
      match if isFree then join? c d else none with
      | some joined => composeOnto joined marks rest
      | none =>
          if classOf d = 0 then c :: marks.reverse ++ composeOnto d [] rest
          else composeOnto c (d :: marks) rest

/-- Compose what composes. Marks at the very beginning stay as they are. -/
def compose : List Char → List Char
  | [] => []
  | c :: rest => if classOf c = 0 then composeOnto c [] rest else c :: compose rest

end Canonical

/-- The canonical form of a text. -/
def canonical (cs : List Char) : List Char :=
  Canonical.compose (Canonical.order (cs.flatMap Canonical.decompose))

end Dialogue.Text
