/-
# Places in a YAML text

A cursor is the rest of a text together with its distance from the start in bytes, its
line and its column in characters. Columns decide the nesting of block collections, so every reader
below moves a cursor and never a bare list of characters. A line may end in five
ways; the two classic control characters side by side are one break.
-/

namespace Dialogue.Yaml

/-- The next-line control character. -/
def nextLineChar : Char := Char.ofNat 0x85

/-- The line separator. -/
def lineSeparator : Char := Char.ofNat 0x2028

/-- The paragraph separator. -/
def paragraphSeparator : Char := Char.ofNat 0x2029

/-- Whether a character ends a line. -/
def isBreak (c : Char) : Bool :=
  c = '\n' || c = '\r' || c = nextLineChar || c = lineSeparator || c = paragraphSeparator

/-- Whether a character separates words within a line. -/
def isSpacing (c : Char) : Bool := c = ' ' || c = '\t'

/-- Whether a character may stand in a name: an ASCII letter or digit, a dash or an underscore. -/
def isNameChar (c : Char) : Bool := c.isAlphanum || c = '_' || c = '-'

/-- Whether a text may hold the character at all. Control characters other than the tab and the
line breaks are refused, and so are the two characters that are none. -/
def isAdmitted (c : Char) : Bool :=
  let n := c.toNat
  n == 0x9 || n == 0xA || n == 0xD || (0x20 ≤ n && n ≤ 0x7E) || n == 0x85 ||
    (0xA0 ≤ n && n ≤ 0xFFFD) || 0x10000 ≤ n

/-- A place in a text. -/
structure Cursor where
  /-- The characters still to be read. -/
  rest : List Char
  /-- How many bytes stand before this place. -/
  index : Nat
  /-- How many lines end before this place. -/
  line : Nat
  /-- How many characters stand before this place on its line. -/
  column : Nat

namespace Cursor

/-- The start of a text. -/
def start (cs : List Char) : Cursor := ⟨cs, 0, 0, 0⟩

/-- The next character. -/
def peek (c : Cursor) : Option Char := c.rest.head?

/-- Whether the next character is the given one. -/
def at? (c : Cursor) (ch : Char) : Bool := c.peek = some ch

/-- How many bytes some characters take. -/
def width (cs : List Char) : Nat := cs.foldl (fun n ch => n + ch.utf8Size) 0

/-- Step over some characters within a line. -/
def skip (n : Nat) (c : Cursor) : Cursor :=
  ⟨c.rest.drop n, c.index + width (c.rest.take n), c.line, c.column + n⟩

/-- Step over one character within a line. -/
def next (c : Cursor) : Cursor := c.skip 1

/-- Step over a line break. -/
def nextLine (c : Cursor) : Cursor :=
  match c.rest with
  | '\r' :: '\n' :: rest => ⟨rest, c.index + 2, c.line + 1, 0⟩
  | rest => ⟨rest.drop 1, c.index + width (rest.take 1), c.line + 1, 0⟩

/-- What a line break contributes to a scalar: the separators stand for themselves, every other
break for a line feed. -/
def breakText (c : Cursor) : List Char :=
  match c.peek with
  | some ch =>
      if ch = lineSeparator || ch = paragraphSeparator then [ch]
      else if isBreak ch then ['\n']
      else []
  | none => []

/-- Step over the characters that satisfy a test; the test holds of no line break. -/
def skipWhile (p : Char → Bool) (c : Cursor) : Cursor := c.skip (c.rest.takeWhile p).length

/-- Whether the text ends here. -/
def atEnd (c : Cursor) : Bool := c.rest.isEmpty

/-- Whether a line break follows. -/
def atBreak (c : Cursor) : Bool := c.peek.any isBreak

/-- Whether a space or tab follows. -/
def atSpacing (c : Cursor) : Bool := c.peek.any isSpacing

/-- Whether a line break or the end of the text follows. -/
def atLineEnd (c : Cursor) : Bool := c.atEnd || c.atBreak

/-- Whether some characters are followed by spacing, a line break or the end of the text. -/
def endsWord : List Char → Bool
  | [] => true
  | ch :: _ => isSpacing ch || isBreak ch

/-- Whether spacing, a line break or the end of the text follows. -/
def atWordEnd (c : Cursor) : Bool := endsWord c.rest

/-- Whether the line starts with the mark of a document's start. -/
def atDocumentStart (c : Cursor) : Bool :=
  c.column = 0 &&
    match c.rest with
    | '-' :: '-' :: '-' :: rest => endsWord rest
    | _ => false

/-- Whether the line starts with the mark of a document's end. -/
def atDocumentEnd (c : Cursor) : Bool :=
  c.column = 0 &&
    match c.rest with
    | '.' :: '.' :: '.' :: rest => endsWord rest
    | _ => false

/-- Whether the line starts with either document mark. -/
def atDocumentMark (c : Cursor) : Bool := c.atDocumentStart || c.atDocumentEnd

/-- Step over a comment, if one follows. -/
def skipComment (c : Cursor) : Cursor :=
  if c.at? '#' then c.skipWhile fun ch => !isBreak ch else c

/-- Step over spacing, a comment and the line break after them; `none` if anything else stands on
the line. -/
def finishLine? (c : Cursor) : Option Cursor :=
  let c := (c.skipWhile isSpacing).skipComment
  if c.atBreak then some c.nextLine else if c.atEnd then some c else none

end Cursor

end Dialogue.Yaml
