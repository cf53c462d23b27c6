/-
# Tokens of a YAML text

The alphabet between characters and documents. Indentation appears as explicit
starts and ends of block collections, and a key found only by the colon after it has
its mark in front like any other key.

A tag is a sequence of bytes. Its escapes may write bytes that are no text at all, and
such a tag is still a tag; only its meaning as a name is lost. A zero byte ends it.
-/

namespace Dialogue.Yaml

/-- How a scalar is written. -/
inductive ScalarStyle where
  /-- Without quotes and without a block indicator. -/
  | plain
  /-- In single or double quotes. -/
  | quoted
  /-- As a block that keeps its lines. -/
  | literal
  /-- As a block whose lines are joined. -/
  | folded
deriving DecidableEq, Repr

/-- The bytes of a tag, or of a part of one. -/
abbrev TagBytes := List UInt8

/-- The bytes of a tag that is written as text. -/
def TagBytes.ofText (s : String) : TagBytes := s.toUTF8.toList

/-- The name that a local tag gives: what follows its exclamation mark, or the mark itself where
nothing follows. -/
def TagBytes.localName? : TagBytes → Option String
  | 33 :: name => String.fromUTF8? ⟨(if name.isEmpty then [33] else name).toArray⟩
  | _ => none

/-- A token. -/
inductive Token where
  | version (major minor : Nat)
  | tagHandle (handle : String) (address : TagBytes)
  | documentStart
  | documentEnd
  | blockSequenceStart
  | blockMappingStart
  | blockEnd
  | flowSequenceStart
  | flowSequenceEnd
  | flowMappingStart
  | flowMappingEnd
  | blockEntry
  | flowEntry
  | key
  | value
  | alias (name : String)
  | anchor (name : String)
  | tag (handle : String) (suffix : TagBytes)
  | scalar (text : String) (style : ScalarStyle)
deriving DecidableEq, Repr

end Dialogue.Yaml
