/-
# From characters to tokens

The lexer walks the text once. Its state is the place, the indentation of the block
collections that are open, and for every open flow collection (and the block level
around them) the place where a key may have started.

A key that needs no mark of its own is recognised late, at its colon. The mark and,
if the key opens a deeper mapping, the start of that mapping then go in front of the
token that was the key. A place ceases to be a possible key when its line ends or
after 1024 bytes; if a key had to stand there the text is refused.

`tokens?` gives the whole token sequence, or `none` if the text violates the rules of
this level.
-/

import Dialogue.Yaml.Token.Basic
import Dialogue.Yaml.Scalar

namespace Dialogue.Yaml

/-- A place where a key may have started. -/
structure PossibleKey where
  /-- The number of tokens before it. -/
  position : Nat
  /-- Whether only a key may stand there: the line starts at the mapping's own column. -/
  required : Bool
  index : Nat
  line : Nat
  column : Nat

/-- The lexer between two tokens. -/
structure Lexer where
  cursor : Cursor
  tokens : Array Token
  /-- The column of the innermost open block collection; -1 outside of all. -/
  indent : Int
  /-- The columns of the collections around it. -/
  outerIndents : List Int
  /-- Whether a key may start at the next token. -/
  keyAllowed : Bool
  /-- The possible key of the innermost level. -/
  possibleKey : Option PossibleKey
  /-- The possible keys of the levels around it, one for every open flow collection. -/
  outerKeys : List (Option PossibleKey)

namespace Lexer

/-- The lexer at the start of a text. -/
def start (cs : List Char) : Lexer := ⟨Cursor.start cs, #[], -1, [], true, none, []⟩

/-- Whether a flow collection is open. -/
def inFlow (l : Lexer) : Bool := !l.outerKeys.isEmpty

/-- Append a token. -/
def push (l : Lexer) (token : Token) : Lexer := { l with tokens := l.tokens.push token }

/-- Append a token of some characters on this line. -/
def pushOver (l : Lexer) (n : Nat) (token : Token) : Lexer :=
  { l with tokens := l.tokens.push token, cursor := l.cursor.skip n }

section Keys

/-- The longest distance from the start of a key to its colon, in bytes. -/
def maxKeyLength : Nat := 1024

/-- Drop a possible key that has become too old; `none` if a key had to stand there. -/
def expire? (c : Cursor) : Option PossibleKey → Option (Option PossibleKey)
  | none => some none
  | some k =>
      if k.line < c.line || k.index + maxKeyLength < c.index then
        if k.required then none else some none
      else some (some k)

/-- Drop all possible keys that have become too old. -/
def expireKeys? (l : Lexer) : Option Lexer := do
  let possibleKey ← expire? l.cursor l.possibleKey
  let outerKeys ← l.outerKeys.mapM (expire? l.cursor)
  return { l with possibleKey, outerKeys }

/-- Give up the possible key of this level; `none` if a key had to stand there. -/
def dropKey? (l : Lexer) : Option Lexer :=
  match l.possibleKey with
  | some k => if k.required then none else some { l with possibleKey := none }
  | none => some l

/-- Note that a key may start here. -/
def noteKey? (l : Lexer) : Option Lexer :=
  if l.keyAllowed then do
    let required := !l.inFlow && l.indent = (l.cursor.column : Int)
    let l ← l.dropKey?
    let c := l.cursor
    return { l with possibleKey := some ⟨l.tokens.size, required, c.index, c.line, c.column⟩ }
  else some l

end Keys

section Indentation

/-- Open a block collection at a column, unless one is open there; its start token goes to the
given position. -/
def openBlock (l : Lexer) (column : Nat) (position : Nat) (token : Token) : Lexer :=
  if !l.inFlow && l.indent < (column : Int) then
    { l with
      indent := column
      outerIndents := l.indent :: l.outerIndents
      tokens := l.tokens.insertIdxIfInBounds position token }
  else l

/-- Close the block collections right of a column. -/
def closeBlocksIn (column : Int) : List Int → Int → Array Token → Int × List Int × Array Token
  | [], indent, tokens => (indent, [], tokens)
  | outer :: rest, indent, tokens =>
      if column < indent then closeBlocksIn column rest outer (tokens.push .blockEnd)
      else (indent, outer :: rest, tokens)

/-- Close the block collections right of a column; inside a flow collection none is closed. -/
def closeBlocks (l : Lexer) (column : Int) : Lexer :=
  if l.inFlow then l
  else
    let (indent, outerIndents, tokens) := closeBlocksIn column l.outerIndents l.indent l.tokens
    { l with indent, outerIndents, tokens }

end Indentation

section Directives

/-- A run of at most nine digits. -/
def readVersionNumber? (c : Cursor) : Option (Nat × Cursor) :=
  let digits := c.rest.takeWhile Char.isDigit
  if digits.length ≤ 9 then
    (Number.ofDigits? digits).map fun n => (n, c.skip digits.length)
  else none

/-- The handle of a tag: an exclamation mark, a name and, if it follows, a second mark. -/
def readHandle? (c : Cursor) : Option (String × Cursor) :=
  if c.at? '!' then
    let name := c.next.rest.takeWhile isNameChar
    let c := c.next.skip name.length
    if c.at? '!' then some (String.ofList ('!' :: name ++ ['!']), c.next)
    else some (String.ofList ('!' :: name), c)
  else none

/-- Whether a character may stand in a tag's address; `admitsFlow` lets in the marks of a flow
sequence too. -/
def isAddressChar (admitsFlow : Bool) (c : Char) : Bool :=
  isNameChar c || ";/?:@&=+$.%!~*'()".toList.contains c ||
    (admitsFlow && (c = ',' || c = '[' || c = ']'))

/-- The number of bytes of a character by its first byte. -/
def utf8Width? (byte : Nat) : Option Nat :=
  if byte < 0x80 then some 1
  else if 0xC0 ≤ byte && byte < 0xE0 then some 2
  else if 0xE0 ≤ byte && byte < 0xF0 then some 3
  else if 0xF0 ≤ byte && byte < 0xF8 then some 4
  else none

/-- The byte of one escape at the head of some characters. -/
def escapedByte? : List Char → Option (Nat × List Char)
  | '%' :: a :: b :: rest => do return ((← Number.hexDigit? a) * 16 + (← Number.hexDigit? b), rest)
  | _ => none

/-- The bytes of an escaped character after its first one, added to what was read so far (the last
byte first). -/
def escapedTail? : Nat → TagBytes → List Char → Option TagBytes
  | 0, done, _ => some done
  | n + 1, done, cs => do
      let (byte, cs) ← escapedByte? cs
      if byte / 0x40 = 2 then escapedTail? n (byte.toUInt8 :: done) cs else none

/-- A character written as a run of escaped bytes, added to what was read so far, and how many
characters the run has. The first byte says how many follow; nothing else is asked of them. -/
def escapedAddressChar? (done : TagBytes) (cs : List Char) : Option (TagBytes × Nat) := do
  let (byte, rest) ← escapedByte? cs
  let width ← utf8Width? byte
  let done ← escapedTail? (width - 1) (byte.toUInt8 :: done) rest
  return (done, 3 * width)

/-- The address part of a tag, added to what was read so far (the last byte first). -/
def readAddress? (admitsFlow : Bool) : Nat → TagBytes → Cursor → Option (TagBytes × Cursor)
  | 0, done, c => some (done, c)
  | fuel + 1, done, c =>
      match c.peek with
      | some ch =>
          if ch = '%' then do
            let (done, n) ← escapedAddressChar? done c.rest
            readAddress? admitsFlow fuel done (c.skip n)
          else if isAddressChar admitsFlow ch then
            readAddress? admitsFlow fuel (ch.toNat.toUInt8 :: done) c.next
          else some (done, c)
      | none => some (done, c)

/-- An address in reading order, up to a zero byte. -/
def finishAddress (done : TagBytes) : TagBytes := done.reverse.takeWhile (· ≠ 0)

/-- A directive line, from its percent sign. Only the version and tag handles are known. -/
def readDirective? (c : Cursor) : Option (Token × Cursor) := do
  let c := c.next
  let name := c.rest.takeWhile isNameChar
  let c := c.skip name.length
  if !c.atWordEnd then none
  else if name = "YAML".toList then
    let (major, c) ← readVersionNumber? (c.skipWhile isSpacing)
    if !c.at? '.' then none
    else
      let (minor, c) ← readVersionNumber? c.next
      return (.version major minor, ← c.finishLine?)
  else if name = "TAG".toList then
    let (handle, c) ← readHandle? (c.skipWhile isSpacing)
    if !(handle = "!" || handle.endsWith "!") || !c.atSpacing then none
    else
      let c := c.skipWhile isSpacing
      let (address, c) ← readAddress? true c.rest.length [] c
      if address.isEmpty || !c.atWordEnd then none
      else return (.tagHandle handle (finishAddress address), ← c.finishLine?)
  else none

end Directives

section Properties

/-- An anchor or alias after its indicator. -/
def readName? (c : Cursor) : Option (String × Cursor) :=
  let name := c.rest.takeWhile isNameChar
  let c := c.skip name.length
  let ends := c.atWordEnd || c.peek.any fun ch => "?:,]\x7d%@`".toList.contains ch
  if name.isEmpty || !ends then none else some (String.ofList name, c)

/-- A tag from its exclamation mark: a full address in angle brackets, a handle with a suffix, or
a suffix alone. -/
def readTag? (inFlow : Bool) (c : Cursor) : Option (Token × Cursor) := do
  let (token, c) ←
    if c.next.at? '<' then do
      let c := c.skip 2
      let (address, c) ← readAddress? true c.rest.length [] c
      if address.isEmpty || !c.at? '>' then none
      else some (Token.tag "" (finishAddress address), c.next)
    else do
      let (handle, c) ← readHandle? c
      if handle.length != 1 && handle.endsWith "!" then
        let (suffix, c) ← readAddress? false c.rest.length [] c
        if suffix.isEmpty then none
        else some (Token.tag handle (finishAddress suffix), c)
      else
        let head := TagBytes.ofText (handle.drop 1).toString
        let (suffix, c) ← readAddress? false c.rest.length head.reverse c
        let suffix := finishAddress suffix
        if suffix.isEmpty then some (Token.tag "" (TagBytes.ofText "!"), c)
        else some (Token.tag "!" suffix, c)
  if c.atWordEnd || (inFlow && c.at? ',') then some (token, c) else none

end Properties

section Fetch

/-- Move to the next token: over blanks, comments and line breaks. A byte order mark may start any
line. A tab counts as a blank only where no key may start. A line break of the block context
allows a key again. -/
def toToken : Nat → Lexer → Lexer
  | 0, l => l
  | fuel + 1, l =>
      let c := l.cursor
      let c := if c.column = 0 && c.at? (Char.ofNat 0xFEFF) then c.next else c
      let tabs := l.inFlow || !l.keyAllowed
      let c := (c.skipWhile fun ch => ch = ' ' || (tabs && ch = '\t')).skipComment
      if c.atBreak then
        toToken fuel { l with cursor := c.nextLine, keyAllowed := l.keyAllowed || !l.inFlow }
      else { l with cursor := c }

/-- Close everything at a directive or a document mark. -/
def closeAll? (l : Lexer) : Option Lexer := do
  let l ← (l.closeBlocks (-1)).dropKey?
  return { l with keyAllowed := false }

/-- A flow collection opens. -/
def openFlow? (l : Lexer) (token : Token) : Option Lexer := do
  let l ← l.noteKey?
  return { l.pushOver 1 token with
    keyAllowed := true, possibleKey := none, outerKeys := l.possibleKey :: l.outerKeys }

/-- A flow collection closes. -/
def closeFlow? (l : Lexer) (token : Token) : Option Lexer := do
  let l ← l.dropKey?
  let l := { l.pushOver 1 token with keyAllowed := false }
  match l.outerKeys with
  | key :: rest => return { l with possibleKey := key, outerKeys := rest }
  | [] => return l

/-- The mark of a sequence entry. -/
def blockEntry? (l : Lexer) : Option Lexer := do
  if !l.inFlow && !l.keyAllowed then none
  else
    let l := l.openBlock l.cursor.column l.tokens.size .blockSequenceStart
    let l ← l.dropKey?
    return { l.pushOver 1 .blockEntry with keyAllowed := true }

/-- The mark of a key. -/
def keyMark? (l : Lexer) : Option Lexer := do
  if !l.inFlow && !l.keyAllowed then none
  else
    let l := l.openBlock l.cursor.column l.tokens.size .blockMappingStart
    let l ← l.dropKey?
    return { l.pushOver 1 .key with keyAllowed := !l.inFlow }

/-- The mark of a value. If a key may have started on this level, the key mark is put in front of
it now. -/
def valueMark? (l : Lexer) : Option Lexer :=
  match l.possibleKey with
  | some k =>
      let l := { l with tokens := l.tokens.insertIdxIfInBounds k.position .key }
      let l := l.openBlock k.column k.position .blockMappingStart
      some { l.pushOver 1 .value with possibleKey := none, keyAllowed := false }
  | none =>
      if !l.inFlow && !l.keyAllowed then none
      else
        let l := l.openBlock l.cursor.column l.tokens.size .blockMappingStart
        some { l.pushOver 1 .value with keyAllowed := !l.inFlow }

/-- A token that may be a key or the start of one, read by the given reader. -/
def keyLike? (l : Lexer) (read : Cursor → Option (Token × Cursor)) : Option Lexer := do
  let l ← l.noteKey?
  let (token, cursor) ← read l.cursor
  return { l.push token with cursor, keyAllowed := false }

/-- A block scalar. -/
def blockScalar? (l : Lexer) (folds : Bool) : Option Lexer := do
  let l ← l.dropKey?
  let (text, cursor) ← readBlock? folds l.indent l.cursor.next
  return { l.push (.scalar text (if folds then .folded else .literal)) with
    cursor, keyAllowed := true }

/-- A plain scalar. A key may follow if the scalar ended with its line. -/
def plainScalar? (l : Lexer) : Option Lexer := do
  let l ← l.noteKey?
  let c := l.cursor
  let (text, cursor, lineEnded) ←
    readPlain? l.inFlow (l.indent + 1) (c.rest.length + 1) [] Gap.none c
  return { l.push (.scalar text .plain) with cursor, keyAllowed := lineEnded }

/-- Whether a plain scalar may start with these characters. -/
def startsPlain (inFlow : Bool) : List Char → Bool
  | [] => false
  | ch :: rest =>
      let separated := Cursor.endsWord rest
      if ch = '-' then !rest.head?.any isSpacing
      else if ch = '?' || ch = ':' then !inFlow && !separated
      else !(isSpacing ch || isBreak ch || ",[]\x7b\x7d#&*!|>'\"%@`".toList.contains ch)

/-- Read the token that starts here. -/
def token? (l : Lexer) : Option Lexer :=
  let c := l.cursor
  if c.column = 0 && c.at? '%' then do
    let l ← l.closeAll?
    let (token, cursor) ← readDirective? c
    return { l.push token with cursor }
  else if c.atDocumentStart then do return (← l.closeAll?).pushOver 3 .documentStart
  else if c.atDocumentEnd then do return (← l.closeAll?).pushOver 3 .documentEnd
  else
    match c.rest with
    | [] => none
    | ch :: rest =>
        let marks := l.inFlow || Cursor.endsWord rest
        if ch = '[' then l.openFlow? .flowSequenceStart
        else if ch = '{' then l.openFlow? .flowMappingStart
        else if ch = ']' then l.closeFlow? .flowSequenceEnd
        else if ch = '}' then l.closeFlow? .flowMappingEnd
        else if ch = ',' then do
          return { (← l.dropKey?).pushOver 1 .flowEntry with keyAllowed := true }
        else if ch = '-' && Cursor.endsWord rest then l.blockEntry?
        else if ch = '?' && marks then l.keyMark?
        else if ch = ':' && marks then l.valueMark?
        else if ch = '*' then
          l.keyLike? fun c => (readName? c.next).map fun (name, c) => (.alias name, c)
        else if ch = '&' then
          l.keyLike? fun c => (readName? c.next).map fun (name, c) => (.anchor name, c)
        else if ch = '!' then l.keyLike? (readTag? l.inFlow)
        else if ch = '|' && !l.inFlow then l.blockScalar? false
        else if ch = '>' && !l.inFlow then l.blockScalar? true
        else if ch = '\'' then
          l.keyLike? fun c =>
            (readSingle? (c.rest.length + 1) [] c.next).map fun (s, c) => (.scalar s .quoted, c)
        else if ch = '"' then
          l.keyLike? fun c =>
            (readDouble? (c.rest.length + 1) [] c.next).map fun (s, c) => (.scalar s .quoted, c)
        else if startsPlain l.inFlow c.rest then l.plainScalar?
        else none

/-- Read all tokens. Every token takes at least one character, so the length of the text bounds
their number. -/
def run? : Nat → Lexer → Option (List Token)
  | 0, _ => none
  | fuel + 1, l => do
      let l := toToken (l.cursor.rest.length + 1) l
      let l ← l.expireKeys?
      let l := l.closeBlocks l.cursor.column
      if l.cursor.atEnd then
        let l ← (l.closeBlocks (-1)).dropKey?
        return l.tokens.toList
      else run? fuel (← l.token?)

end Fetch

end Lexer

/-- The tokens of a text. -/
def Token.ofChars? (cs : List Char) : Option (List Token) :=
  if cs.all isAdmitted then Lexer.run? (cs.length + 1) (Lexer.start cs) else none

end Dialogue.Yaml
