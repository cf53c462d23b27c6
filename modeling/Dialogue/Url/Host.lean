/-
# Hosts

The host of a URL is a domain, or an address of one of the two versions of the Internet
protocol. A domain whose last label is a number is an address or nothing.
-/

import Dialogue.Text.Split
import Dialogue.Url.Domain
import Dialogue.Url.Percent

namespace Dialogue.Url

open Text (splitAll joinWith)

/-- The host of a URL. -/
inductive Host where
  | domain (name : List Char)
  | ipv4 (address : Nat)
  /-- Eight numbers of sixteen bits. -/
  | ipv6 (pieces : List Nat)
deriving DecidableEq, Repr

section Ipv4

/-- Whether a digit may stand in a number of some base. -/
def isDigitOf (base : Nat) (c : Char) : Bool := (Number.hexDigit? c).any (· < base)

/-- The value of digits in some base. -/
def valueIn (base : Nat) (cs : List Char) : Nat :=
  cs.foldl (fun n c => n * base + (Number.hexDigit? c).getD 0) 0

/-- A number of an address: hexadecimal after `0x`, octal after a zero, decimal otherwise. -/
def addressNumber? (cs : List Char) : Option Nat :=
  let read (base : Nat) (cs : List Char) : Option Nat :=
    if cs.all (isDigitOf base) then some (valueIn base cs) else none
  match cs with
  | [] => none
  | '0' :: 'x' :: rest => read 16 rest
  | '0' :: 'X' :: rest => read 16 rest
  | '0' :: c :: rest => read 8 (c :: rest)
  | _ => read 10 cs

/-- Whether the last label of a domain is a number. An empty label at the end does not count. -/
def endsInNumber (cs : List Char) : Bool :=
  let labels := (splitAll (· = '.') cs).reverse
  let last := match labels with
    | [] :: label :: _ => label
    | label :: _ => label
    | [] => []
  (!last.isEmpty && last.all Char.isDigit) || (addressNumber? last).isSome

/-- The address that numbers stand for: each but the last is one byte, and the last is the rest. -/
def addressOf? (numbers : List Nat) : Option Nat :=
  match numbers.reverse with
  | [] => none
  | last :: firsts =>
      if 3 < firsts.length || firsts.any (255 < ·) ||
          Nat.pow 256 (4 - firsts.length) ≤ last then none
      else some (firsts.reverse.mapIdx (fun i n => n * Nat.pow 256 (3 - i)) |>.foldl (· + ·) last)

/-- The address that a domain stands for. -/
def ipv4? (cs : List Char) : Option Nat :=
  let labels := splitAll (· = '.') cs
  let labels := if labels.getLast? = some [] then labels.dropLast else labels
  (labels.mapM addressNumber?).bind addressOf?

/-- An address as four bytes. -/
def ipv4Text (address : Nat) : List Char :=
  joinWith '.' ([3, 2, 1, 0].map fun i => Nat.toDigits 10 (address / Nat.pow 256 i % 256))

end Ipv4

section Ipv6

/-- A piece of an address: up to four hexadecimal digits. -/
def piece? (cs : List Char) : Option Nat :=
  if !cs.isEmpty && cs.length ≤ 4 && cs.all (isDigitOf 16) then some (valueIn 16 cs) else none

/-- A byte in decimal, without leading zeros. -/
def byte? (cs : List Char) : Option Nat :=
  if cs.isEmpty || !cs.all Char.isDigit || (1 < cs.length && cs.head? = some '0') then none
  else (some (valueIn 10 cs)).filter (· < 256)

/-- The two pieces that an address of the older version makes at the end of one of the newer. -/
def embedded? (cs : List Char) : Option (List Nat) :=
  match (splitAll (· = '.') cs).mapM byte? with
  | some [a, b, c, d] => some [256 * a + b, 256 * c + d]
  | _ => none

/-- The pieces of a part of an address. Only the part at the end may close with an address of the
older version. -/
def pieces? (atEnd : Bool) : List (List Char) → Option (List Nat)
  | [] => some []
  | [part] => (piece? part).map ([·]) <|> if atEnd then embedded? part else none
  | part :: parts => do return (← piece? part) :: (← pieces? atEnd parts)

/-- Divide the parts of an address at the empty one, which stands for as many zeros as fit. -/
def aroundGap : List (List Char) → List (List Char) × Option (List (List Char))
  | [] => ([], none)
  | [] :: parts => ([], some parts)
  | part :: parts =>
      let (before, after) := aroundGap parts
      (part :: before, after)

/-- The parts of an address between colons. Two colons at an end make one empty part. -/
def colonParts? (cs : List Char) : Option (List (List Char)) :=
  let parts := splitAll (· = ':') cs
  let parts? := match parts with
    | [] :: [] :: part :: rest => some ([] :: part :: rest)
    | [] :: _ => none
    | _ => some parts
  parts?.bind fun parts =>
    match parts.reverse with
    | [] :: [] :: rest => some ([] :: rest).reverse
    | [] :: _ => none
    | _ => some parts

/-- The pieces of an address. -/
def ipv6? (cs : List Char) : Option (List Nat) := do
  let parts ← colonParts? cs
  match aroundGap parts with
  | (before, none) =>
      let pieces ← pieces? true before
      if pieces.length = 8 then return pieces else none
  | (before, some after) =>
      let first ← pieces? false before
      let last ← pieces? true after
      if first.length + last.length ≤ 7 then
        return first ++ List.replicate (8 - first.length - last.length) 0 ++ last
      else none

/-- The length of the run of zeros that a list begins with. -/
def zeroRun (pieces : List Nat) : Nat := (pieces.takeWhile (· = 0)).length

/-- Where the first of the longest runs of zeros begins, and its length. -/
def longestZeros : Nat → List Nat → Nat × Nat
  | _, [] => (0, 0)
  | start, piece :: pieces =>
      let (later, length) := longestZeros (start + 1) pieces
      let here := zeroRun (piece :: pieces)
      if length ≤ here then (start, here) else (later, length)

/-- A piece in hexadecimal digits. -/
def pieceText (n : Nat) : List Char := Nat.toDigits 16 n

/-- An address as text: the longest run of at least two zeros is left out. -/
def ipv6Text (pieces : List Nat) : List Char :=
  let (start, length) := longestZeros 0 pieces
  let join (ps : List Nat) : List Char := joinWith ':' (ps.map pieceText)
  if 2 ≤ length then
    join (pieces.take start) ++ [':', ':'] ++ join (pieces.drop (start + length))
  else join pieces

end Ipv6

namespace Host

/-- The address between brackets. -/
def bracketed? (cs : List Char) : Option Host :=
  if cs.getLast? = some ']' then (ipv6? cs.dropLast).map .ipv6 else none

/-- A host of one of the special schemes. -/
def parse? (cs : List Char) : Option Host :=
  match cs with
  | '[' :: rest => bracketed? rest
  | _ => do
      let name ← Domain.ascii? (← unescape? cs)
      if name.isEmpty then none
      else if endsInNumber name then (ipv4? name).map .ipv4
      else return .domain name

/-- A character that no host of any scheme may hold. -/
def isNeverAllowed (c : Char) : Bool :=
  c = '\x00' || c ∈ ['\t', '\n', '\r', ' ', '#', '/', ':', '<', '>', '?', '@', '[', '\\', ']',
    '^', '|']

/-- A host of any other scheme, which is taken as it stands. -/
def parsePlain? (cs : List Char) : Option Host :=
  match cs with
  | '[' :: rest => bracketed? rest
  | _ => if cs.any isNeverAllowed then none else some (.domain (escape isControl cs))

/-- A host as text. -/
def text : Host → List Char
  | .domain name => name
  | .ipv4 address => ipv4Text address
  | .ipv6 pieces => '[' :: ipv6Text pieces ++ [']']

end Host

end Dialogue.Url
