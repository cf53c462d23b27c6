/-
# Scalars of a YAML text

How the text of a scalar is read in each of its notations: plain, in single or
double quotes, and as an indented block. Line breaks inside a scalar are folded: a
single break becomes a space, further breaks stay. Each reader gives the text and
the place after it, or `none` where the notation is violated.

The readers carry a bound on the number of their steps. Every step moves at least
one character on, so the length of the remaining text is always enough.
-/

import Dialogue.Yaml.Cursor
import Dialogue.Number.Integer

namespace Dialogue.Yaml

/-- What stands between two words of a scalar. -/
inductive Gap where
  /-- Spaces and tabs within a line. -/
  | spaces (text : List Char)
  /-- A first line break and those that follow it. -/
  | lines (first more : List Char)

namespace Gap

/-- No gap. -/
def none : Gap := .spaces []

/-- Whether the gap spans lines. -/
def isLines : Gap → Bool
  | .spaces _ => false
  | .lines _ _ => true

/-- What a gap contributes to the text. -/
def folded : Gap → List Char
  | .spaces text => text
  | .lines ['\n'] [] => [' ']
  | .lines ['\n'] more => more
  | .lines first more => first ++ more

/-- Read on through spacing and line breaks. Spacing after a break is indentation; a tab there
left of `floor` is refused. -/
def read? (floor : Int) : Nat → Gap → Cursor → Option (Gap × Cursor)
  | 0, gap, c => some (gap, c)
  | fuel + 1, gap, c =>
      match c.peek with
      | some ch =>
          if isSpacing ch then
            match gap with
            | .spaces text => read? floor fuel (.spaces (text ++ [ch])) c.next
            | .lines _ _ =>
                if ch = '\t' && (c.column : Int) < floor then Option.none
                else read? floor fuel gap c.next
          else if isBreak ch then
            match gap with
            | .spaces _ => read? floor fuel (.lines c.breakText []) c.nextLine
            | .lines first more => read? floor fuel (.lines first (more ++ c.breakText)) c.nextLine
          else some (gap, c)
      | Option.none => some (gap, c)

end Gap

section SingleQuoted

/-- The characters up to the next spacing, line break or closing quote, added to those read so far
(the last one first). A doubled quote is a quote. -/
def singleRun : Nat → List Char → Cursor → List Char × Cursor
  | 0, done, c => (done, c)
  | fuel + 1, done, c =>
      match c.rest with
      | '\'' :: '\'' :: _ => singleRun fuel ('\'' :: done) (c.skip 2)
      | '\'' :: _ => (done, c)
      | ch :: _ =>
          if isSpacing ch || isBreak ch then (done, c) else singleRun fuel (ch :: done) c.next
      | [] => (done, c)

/-- The rest of a single-quoted scalar. -/
def readSingle? : Nat → List Char → Cursor → Option (String × Cursor)
  | 0, _, _ => none
  | fuel + 1, done, c =>
      if c.atDocumentMark || c.atEnd then none
      else
        let (done, c) := singleRun c.rest.length done c
        if c.at? '\'' then some (String.ofList done.reverse, c.next)
        else do
          let (gap, c) ← Gap.read? 0 c.rest.length Gap.none c
          readSingle? fuel (gap.folded.reverse ++ done) c

end SingleQuoted

section DoubleQuoted

/-- The character of an escape of one letter. -/
def escapedChar? (c : Char) : Option Char :=
  match c with
  | '0' => some (Char.ofNat 0x0)
  | 'a' => some (Char.ofNat 0x7)
  | 'b' => some (Char.ofNat 0x8)
  | 't' | '\t' => some '\t'
  | 'n' => some '\n'
  | 'v' => some (Char.ofNat 0xB)
  | 'f' => some (Char.ofNat 0xC)
  | 'r' => some '\r'
  | 'e' => some (Char.ofNat 0x1B)
  | ' ' => some ' '
  | '"' => some '"'
  | '/' => some '/'
  | '\\' => some '\\'
  | 'N' => some nextLineChar
  | '_' => some (Char.ofNat 0xA0)
  | 'L' => some lineSeparator
  | 'P' => some paragraphSeparator
  | _ => none

/-- How many hexadecimal digits follow the letter of an escape. -/
def escapeDigits? (c : Char) : Option Nat :=
  match c with
  | 'x' => some 2
  | 'u' => some 4
  | 'U' => some 8
  | _ => none

/-- The character of a number; surrogates and numbers past the last character have none. -/
def charOfNumber? (n : Nat) : Option Char :=
  if (0xD800 ≤ n && n ≤ 0xDFFF) || 0x10FFFF < n then none else some (Char.ofNat n)

/-- The characters up to the next spacing, line break or closing quote, added to those read so far
(the last one first). The flag says that the run ended with an escaped line break. -/
def doubleRun? : Nat → List Char → Cursor → Option (List Char × Cursor × Bool)
  | 0, done, c => some (done, c, false)
  | fuel + 1, done, c =>
      match c.rest with
      | '"' :: _ => some (done, c, false)
      | ['\\'] => none
      | '\\' :: ch :: rest =>
          if isBreak ch then some (done, c.next.nextLine, true)
          else
            match escapeDigits? ch with
            | some n => do
                let digits := rest.take n
                if digits.length = n then
                  let e ← charOfNumber? (← Number.ofDigitsIn? 16 digits)
                  doubleRun? fuel (e :: done) (c.skip (2 + n))
                else none
            | none => do
                let e ← escapedChar? ch
                doubleRun? fuel (e :: done) (c.skip 2)
      | ch :: _ =>
          if isSpacing ch || isBreak ch then some (done, c, false)
          else doubleRun? fuel (ch :: done) c.next
      | [] => some (done, c, false)

/-- The rest of a double-quoted scalar. -/
def readDouble? : Nat → List Char → Cursor → Option (String × Cursor)
  | 0, _, _ => none
  | fuel + 1, done, c =>
      if c.atDocumentMark || c.atEnd then none
      else do
        let (done, c, joined) ← doubleRun? c.rest.length done c
        if c.at? '"' then some (String.ofList done.reverse, c.next)
        else
          let (gap, c) ← Gap.read? 0 c.rest.length (if joined then .lines [] [] else Gap.none) c
          readDouble? fuel (gap.folded.reverse ++ done) c

end DoubleQuoted

section Plain

/-- Whether a character separates the parts of a flow collection. -/
def isFlowMark (c : Char) : Bool := c = ',' || c = '[' || c = ']' || c = '{' || c = '}'

/-- The characters of one plain word, the last one first. Inside a flow collection a colon
directly before a flow mark is refused. -/
def plainRun? (inFlow : Bool) : Nat → List Char → Cursor → Option (List Char × Cursor)
  | 0, done, c => some (done, c)
  | fuel + 1, done, c =>
      match c.rest with
      | [] => some (done, c)
      | ch :: rest =>
          if isSpacing ch || isBreak ch then some (done, c)
          else if inFlow && ch = ':' && rest.head?.any (fun d => isFlowMark d || d = '?') then none
          else if (ch = ':' && Cursor.endsWord rest) || (inFlow && isFlowMark ch) then
            some (done, c)
          else plainRun? inFlow fuel (ch :: done) c.next

/-- A plain scalar whose lines are indented by at least `indent` columns: its text, the place
after it, and whether that place is on a later line. -/
def readPlain? (inFlow : Bool) (indent : Int) :
    Nat → List Char → Gap → Cursor → Option (String × Cursor × Bool)
  | 0, _, _, _ => none
  | fuel + 1, done, gap, c =>
      if c.atDocumentMark || c.at? '#' then some (String.ofList done.reverse, c, gap.isLines)
      else do
        let (run, c) ← plainRun? inFlow c.rest.length [] c
        let (done, gap) :=
          if run.isEmpty then (done, gap) else (run ++ gap.folded.reverse ++ done, Gap.none)
        if c.atSpacing || c.atBreak then
          let (gap, c) ← Gap.read? indent c.rest.length gap c
          if !inFlow && (c.column : Int) < indent then
            some (String.ofList done.reverse, c, gap.isLines)
          else readPlain? inFlow indent fuel done gap c
        else some (String.ofList done.reverse, c, gap.isLines)

end Plain

section Block

/-- What happens to the line breaks at the end of a block scalar. -/
inductive Chomping where
  | strip
  | clip
  | keep
deriving DecidableEq

/-- The header of a block scalar: an indentation and a chomping sign, in either order. -/
structure BlockHeader where
  chomping : Chomping
  /-- The indentation beyond the parent's; zero where the first line decides. -/
  increment : Nat

/-- The chomping sign, if one follows. -/
def chompingSign (c : Cursor) : Option Chomping :=
  if c.at? '+' then some .keep else if c.at? '-' then some .strip else none

/-- The indentation digit, if one follows. -/
def indentDigit (c : Cursor) : Option Nat :=
  c.peek.bind fun ch => if ch.isDigit then some (ch.toNat - '0'.toNat) else none

/-- Read the header. An indentation of zero is refused. -/
def readBlockHeader? (c : Cursor) : Option (BlockHeader × Cursor) :=
  match chompingSign c with
  | some chomping =>
      let c := c.next
      match indentDigit c with
      | some 0 => none
      | some n => some (⟨chomping, n⟩, c.next)
      | none => some (⟨chomping, 0⟩, c)
  | none =>
      match indentDigit c with
      | some 0 => none
      | some n =>
          let c := c.next
          match chompingSign c with
          | some chomping => some (⟨chomping, n⟩, c.next)
          | none => some (⟨.clip, n⟩, c)
      | none => some (⟨.clip, 0⟩, c)

/-- The indentation and the empty lines before the next line with text. The scalar's own
indentation is found here when it is still zero: it is the deepest of these lines, but deeper
than the parent's. -/
def readBlockBreaks? (parent : Int) :
    Nat → Nat → Nat → List Char → Cursor → Option (Nat × List Char × Cursor)
  | 0, _, _, _, _ => none
  | fuel + 1, indent, deepest, breaks, c =>
      let spaces := (c.rest.takeWhile (· = ' ')).length
      let c := c.skip (if indent = 0 then spaces else min spaces (indent - c.column))
      let deepest := max deepest c.column
      if (indent = 0 || c.column < indent) && c.at? '\t' then none
      else if c.atBreak then
        readBlockBreaks? parent fuel indent deepest (breaks ++ c.breakText) c.nextLine
      else
        let found := max deepest (max (parent + 1).toNat 1)
        some (if indent = 0 then found else indent, breaks, c)

/-- The lines of a block scalar, added to the text read so far (the last character first).
`lineBreak` is the break after the last line and `more` the empty lines after it; `spaced` says
that the last line started with spacing. Folding joins two lines only if neither does. -/
def readBlockLines? (folds : Bool) (parent : Int) (indent : Nat) :
    Nat → List Char → List Char → List Char → Bool → Cursor →
      Option (List Char × List Char × List Char × Cursor)
  | 0, _, _, _, _, _ => none
  | fuel + 1, done, lineBreak, more, spaced, c =>
      if c.column = indent && !c.atEnd then do
        let starts := c.atSpacing
        let between :=
          if folds && lineBreak = ['\n'] && !spaced && !starts then
            if more.isEmpty then [' '] else more
          else lineBreak ++ more
        let text := c.rest.takeWhile fun ch => !isBreak ch
        let c := c.skip text.length
        let lineBreak := c.breakText
        let c := if c.atEnd then c else c.nextLine
        let (_, more, c) ← readBlockBreaks? parent (c.rest.length + 1) indent 0 [] c
        readBlockLines? folds parent indent fuel (text.reverse ++ between.reverse ++ done)
          lineBreak more starts c
      else some (done, lineBreak, more, c)

/-- The block scalar after its indicator, in a collection indented by `parent`. -/
def readBlock? (folds : Bool) (parent : Int) (c : Cursor) : Option (String × Cursor) := do
  let (header, c) ← readBlockHeader? c
  let c ← c.finishLine?
  let indent := if header.increment = 0 then 0 else (max parent 0).toNat + header.increment
  let (indent, more, c) ← readBlockBreaks? parent (c.rest.length + 1) indent 0 [] c
  let (done, lineBreak, more, c) ←
    readBlockLines? folds parent indent (c.rest.length + 1) [] [] more false c
  let tail :=
    match header.chomping with
    | .strip => []
    | .clip => lineBreak
    | .keep => lineBreak ++ more
  return (String.ofList (done.reverse ++ tail), c)

end Block

end Dialogue.Yaml
