/-
# Domains

A domain is a list of labels with dots between them. It is compared in its final form: every
character replaced by what it stands for, the whole in canonical form, and each label that is
not ASCII written in ASCII, with a mark in front. A label that has the mark already must
stand for a label that could have been written so.
-/

import Dialogue.Text.Canonical
import Dialogue.Text.Mark
import Dialogue.Text.Split
import Dialogue.Url.Domain.Direction
import Dialogue.Url.Domain.Joining
import Dialogue.Url.Domain.Mapping
import Dialogue.Url.Punycode

namespace Dialogue.Url.Domain

open Text (splitAll joinWith canonical isMark)
open Punycode (isBasic)

/-- A character that no domain may hold in its final form. -/
def isForbidden (c : Char) : Bool :=
  c.toNat ≤ 0x20 || c.toNat = 0x7f ||
    c ∈ ['%', '#', '/', ':', '<', '>', '?', '@', '[', '\\', ']', '^', '|']

/-- The mark of a label in its ASCII form. -/
def asciiMark : List Char := ['x', 'n', '-', '-']

/-- The most characters of a label that is to be written in ASCII. -/
def encodeLimit : Nat := 1000

/-- The most characters after the mark of a label. -/
def decodeLimit : Nat := 2000

/-- A domain with every character replaced, in canonical form. A text in ASCII is canonical. -/
def mapped? (cs : List Char) : Option (List Char) :=
  if cs.all isBasic then some (cs.map Char.toLower)
  else (cs.mapM mapChar?).map fun parts => canonical parts.flatten

/-- Whether a label that is not ASCII keeps the rules for marks and for the invisible characters. -/
def isWellFormed (label : List Char) : Bool := !label.head?.any isMark && joinsWell [] label

/-- The text that a label with the mark stands for. It must be one that the mark is needed for, and
in its final form already. -/
def decoded? (label : List Char) : Option (List Char) :=
  let digits := label.drop asciiMark.length
  if !label.all isBasic || decodeLimit < digits.length then none
  else
    (Punycode.decode? digits).filter fun text =>
      text.any (!isBasic ·) && text.all isKept && canonical text = text &&
        text.take asciiMark.length ≠ asciiMark && isWellFormed text

/-- A label as it is shown and as it is written in ASCII. -/
structure Label where
  shown : List Char
  ascii : List Char

/-- The two forms of a label whose characters are replaced already. -/
def Label.of? (label : List Char) : Option Label :=
  if label.take asciiMark.length = asciiMark then
    (decoded? label).map fun text => { shown := text, ascii := label }
  else if label.all isBasic then some { shown := label, ascii := label }
  else if label.length ≤ encodeLimit && isWellFormed label then
    some { shown := label, ascii := asciiMark ++ Punycode.encode label }
  else none

/-- A domain in its final form. -/
def ascii? (cs : List Char) : Option (List Char) := do
  let mapped ← mapped? cs
  if mapped.any isForbidden then none
  else
    let labels ← (splitAll (· = '.') mapped).mapM Label.of?
    let isAscii := labels.all fun label => label.shown.all isBasic
    if !isAscii && labels.any (·.shown.any turns) && !labels.all (isOriented ·.shown) then none
    else return joinWith '.' (labels.map Label.ascii)

end Dialogue.Url.Domain
