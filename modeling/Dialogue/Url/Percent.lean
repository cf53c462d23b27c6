/-
# Percent coding

Characters that may not stand in some part of a URL are written as the bytes of their
encoding, each as a percent sign and two hexadecimal digits. Each part has its own set
of such characters; whatever is not ASCII belongs to all of them.
-/

import Dialogue.Number.Integer

namespace Dialogue.Url

/-- A byte as a percent sign and two hexadecimal digits. -/
def escapeByte (b : UInt8) : List Char :=
  ['%', (Nat.digitChar (b.toNat / 16)).toUpper, (Nat.digitChar (b.toNat % 16)).toUpper]

/-- Write the characters of some set as bytes. -/
def escape (inSet : Char → Bool) (cs : List Char) : List Char :=
  cs.flatMap fun c => if inSet c then (String.utf8EncodeChar c).flatMap escapeByte else [c]

/-- The byte that a character stands for as a hexadecimal digit. -/
def hexByte? (b : UInt8) : Option Nat := Number.hexDigit? (Char.ofNat b.toNat)

/-- Replace each percent sign and two hexadecimal digits by the byte they stand for. -/
def unescape : List UInt8 → List UInt8
  | b :: high :: low :: rest =>
      match hexByte? high, hexByte? low with
      | some h, some l =>
          if b = 37 then (16 * h + l).toUInt8 :: unescape rest
          else b :: unescape (high :: low :: rest)
      | _, _ => b :: unescape (high :: low :: rest)
  | bs => bs

/-- The text that escaped characters stand for, if its bytes are a text at all. -/
def unescape? (cs : List Char) : Option (List Char) :=
  (String.fromUTF8? ⟨(unescape (cs.flatMap String.utf8EncodeChar)).toArray⟩).map String.toList

/-- Control characters and whatever is not ASCII. -/
def isControl (c : Char) : Bool := c.toNat < 0x20 || 0x7f ≤ c.toNat

/-- What is escaped in a fragment. -/
def inFragment (c : Char) : Bool := isControl c || c ∈ [' ', '"', '<', '>', '`']

/-- What is escaped in a path. -/
def inPath (c : Char) : Bool := inFragment c || c ∈ ['#', '?', '{', '}']

/-- What is escaped in the name and the password of a user. -/
def inUserInfo (c : Char) : Bool :=
  inPath c || c ∈ ['/', ':', ';', '=', '@', '[', '\\', ']', '^', '|']

/-- What is escaped in a query. -/
def inQuery (c : Char) : Bool := isControl c || c ∈ [' ', '"', '#', '<', '>']

/-- What is escaped in a query of one of the special schemes. -/
def inSpecialQuery (c : Char) : Bool := inQuery c || c = '\''

end Dialogue.Url
