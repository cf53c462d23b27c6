/-
# Documents

A document is a tree of scalars, sequences and mappings. An alias stays a leaf with a
number: the document keeps the anchored nodes apart, so a tree is finite even if an
anchored collection mentions itself.

`Document.ofTokens?` builds the one document of a token sequence. It follows the
grammar token by token: flow collections close explicitly, block collections by their
end token, and a sequence may stand at the column of the key above it. An absent node
is an empty plain scalar. A second document, an unknown alias or an unknown tag handle
is refused.
-/

import Dialogue.Yaml.Token.Basic
import Dialogue.Table

namespace Dialogue.Yaml

/-- A node of a document. -/
inductive Node where
  | scalar (text : String) (style : ScalarStyle) (tag : Option TagBytes)
  | sequence (tag : Option TagBytes) (items : List Node)
  | mapping (tag : Option TagBytes) (entries : List (Node × Node))
  | alias (number : Nat)
deriving Repr, Inhabited

namespace Node

/-- The node where nothing is written. -/
def blank : Node := .scalar "" .plain none

mutual

/-- How many steps it takes to walk a node: one for a scalar or an alias, one each for the start
and the end of a collection. -/
def steps : Node → Nat
  | .scalar _ _ _ => 1
  | .alias _ => 1
  | .sequence _ items => 2 + itemSteps items
  | .mapping _ entries => 2 + entrySteps entries

/-- The steps of the items of a sequence. -/
def itemSteps : List Node → Nat
  | [] => 0
  | item :: rest => item.steps + itemSteps rest

/-- The steps of the entries of a mapping. -/
def entrySteps : List (Node × Node) → Nat
  | [] => 0
  | (key, value) :: rest => key.steps + value.steps + entrySteps rest

end

end Node

/-- A document: its root and the anchored nodes by number. -/
structure Document where
  root : Node
  anchored : List (Nat × Node)

/-- The node that an alias stands for. -/
def Document.target? (d : Document) (number : Nat) : Option Node :=
  Table.lookupIn number d.anchored

/-- A document under construction. -/
structure Builder where
  /-- The tokens still to be read. -/
  tokens : List Token
  /-- The tag handles in force and the addresses they stand for. -/
  handles : List (String × TagBytes)
  /-- The anchor names in use, each with its number. A name takes the number of names in use
  before it, so a name that is anchored anew shares its number with the next new name. -/
  names : List (String × Nat)
  /-- For every number the anchor that took it last, counting anchors from the start. -/
  holders : List (Nat × Nat)
  /-- How many anchors have been met. -/
  anchors : Nat
  /-- The finished anchored nodes, by anchor. -/
  finished : List (Nat × Node)

namespace Builder

/-- Drop the next token. -/
def next (b : Builder) : Builder := { b with tokens := b.tokens.drop 1 }

/-- The next token; `none` at the end. -/
def peek (b : Builder) : Option Token := b.tokens.head?

/-- Whether the next token is the given one. -/
def at? (b : Builder) (token : Token) : Bool := b.peek = some token

/-- Give a number to an anchor; the answer is the anchor. -/
def openAnchor (b : Builder) (name : String) : Nat × Builder :=
  let number := b.names.length
  (b.anchors, { b with
    names := (name, number) :: b.names.filter (·.1 != name)
    holders := (number, b.anchors) :: b.holders
    anchors := b.anchors + 1 })

/-- Keep the finished node of an anchor. -/
def closeAnchor (b : Builder) (anchor : Option Nat) (node : Node) : Builder :=
  match anchor with
  | some a => { b with finished := (a, node) :: b.finished }
  | none => b

/-- The properties before a node, an anchor and a tag in either order. -/
structure Properties where
  anchor : Option String := none
  tag : Option (String × TagBytes) := none

/-- Read the properties before a node. -/
def properties (b : Builder) : Properties × Builder :=
  match b.tokens with
  | .anchor name :: .tag handle suffix :: rest =>
      (⟨some name, some (handle, suffix)⟩, { b with tokens := rest })
  | .anchor name :: rest => (⟨some name, none⟩, { b with tokens := rest })
  | .tag handle suffix :: .anchor name :: rest =>
      (⟨some name, some (handle, suffix)⟩, { b with tokens := rest })
  | .tag handle suffix :: rest => (⟨none, some (handle, suffix)⟩, { b with tokens := rest })
  | _ => ({}, b)

/-- The full tag among the properties, if there is one; `none` if its handle is unknown. -/
def tagOf? (b : Builder) (p : Properties) : Option (Option TagBytes) :=
  match p.tag with
  | some (handle, suffix) =>
      if handle.isEmpty then some (some suffix)
      else (Table.lookupIn handle b.handles).map fun address => some (address ++ suffix)
  | none => some none

/-- Whether the next token ends an entry of a block sequence. -/
def endsBlockEntry (b : Builder) : Bool := b.at? .blockEntry || b.at? .blockEnd

/-- Whether the next token ends a key or a value of a block mapping. -/
def endsBlockPart (b : Builder) : Bool := b.at? .key || b.at? .value || b.at? .blockEnd

mutual

/-- The node at the head of the tokens. `block` admits block collections and `flush` a sequence
at the column of its key. The first argument bounds the number of nodes and entries; four times
the number of tokens is enough. -/
def node? : Nat → Bool → Bool → Builder → Option (Node × Builder)
  | 0, _, _, _ => none
  | fuel + 1, block, flush, b =>
      match b.peek with
      | some (.alias name) =>
          (Table.lookupIn name b.names).map fun number => (.alias number, b.next)
      | _ => do
          let (p, b) := b.properties
          let tag ← b.tagOf? p
          let (anchor, b) := match p.anchor with
            | some name => (b.openAnchor name).map some id
            | none => (none, b)
          let (node, b) ← content? fuel block flush (p.anchor.isSome || tag.isSome) tag b
          return (node, b.closeAnchor anchor node)

/-- The node after its properties. Where there are any, the node itself may be missing. -/
def content? : Nat → Bool → Bool → Bool → Option TagBytes → Builder → Option (Node × Builder)
  | 0, _, _, _, _, _ => none
  | fuel + 1, block, flush, mayMiss, tag, b =>
      let missing : Option (Node × Builder) :=
        if mayMiss then some (.scalar "" .plain tag, b) else none
      match b.peek with
      | some (.scalar text style) => some (.scalar text style tag, b.next)
      | some .flowSequenceStart =>
          (flowItems? fuel true b.next).map fun (items, b) => (.sequence tag items, b)
      | some .flowMappingStart =>
          (flowEntries? fuel true b.next).map fun (entries, b) => (.mapping tag entries, b)
      | some .blockEntry =>
          if flush then (flushItems? fuel b).map fun (items, b) => (.sequence tag items, b)
          else missing
      | some .blockSequenceStart =>
          if block then (blockItems? fuel b.next).map fun (items, b) => (.sequence tag items, b)
          else missing
      | some .blockMappingStart =>
          if block then
            (blockEntries? fuel b.next).map fun (entries, b) => (.mapping tag entries, b)
          else missing
      | _ => missing

/-- The items of a block sequence up to its end. -/
def blockItems? : Nat → Builder → Option (List Node × Builder)
  | 0, _ => none
  | fuel + 1, b =>
      if b.at? .blockEntry then do
        let b := b.next
        let (item, b) ← if b.endsBlockEntry then some (Node.blank, b) else node? fuel true false b
        let (items, b) ← blockItems? fuel b
        return (item :: items, b)
      else if b.at? .blockEnd then some ([], b.next)
      else none

/-- The items of a sequence at the column of its key. No token ends it. -/
def flushItems? : Nat → Builder → Option (List Node × Builder)
  | 0, _ => none
  | fuel + 1, b =>
      if b.at? .blockEntry then do
        let b := b.next
        let (item, b) ←
          if b.endsBlockPart || b.at? .blockEntry then some (Node.blank, b)
          else node? fuel true false b
        let (items, b) ← flushItems? fuel b
        return (item :: items, b)
      else some ([], b)

/-- The entries of a block mapping up to its end. A key or a value may be missing. -/
def blockEntries? : Nat → Builder → Option (List (Node × Node) × Builder)
  | 0, _ => none
  | fuel + 1, b =>
      if b.at? .key then do
        let b := b.next
        let (key, b) ← if b.endsBlockPart then some (Node.blank, b) else node? fuel true true b
        let (value, b) ← blockValue? fuel b
        let (entries, b) ← blockEntries? fuel b
        return ((key, value) :: entries, b)
      else if b.at? .blockEnd then some ([], b.next)
      else none

/-- The value of an entry of a block mapping. -/
def blockValue? : Nat → Builder → Option (Node × Builder)
  | 0, _ => none
  | fuel + 1, b =>
      if b.at? .value then
        let b := b.next
        if b.endsBlockPart then some (Node.blank, b) else node? fuel true true b
      else some (Node.blank, b)

/-- The items of a flow sequence up to its end; all but the first stand after a comma. An item
with a key mark is a mapping of one entry. -/
def flowItems? : Nat → Bool → Builder → Option (List Node × Builder)
  | 0, _, _ => none
  | fuel + 1, first, b =>
      if b.at? .flowSequenceEnd then some ([], b.next)
      else if !first && !b.at? .flowEntry then none
      else
        let b := if first then b else b.next
        if b.at? .key then do
          let (entry, b) ← flowPair? fuel b.next
          let (items, b) ← flowItems? fuel false b
          return (.mapping none [entry] :: items, b)
        else if b.at? .flowSequenceEnd then some ([], b.next)
        else do
          let (item, b) ← node? fuel false false b
          let (items, b) ← flowItems? fuel false b
          return (item :: items, b)

/-- The one entry of a mapping inside a flow sequence. Where the key is missing, the token in its
place is dropped. -/
def flowPair? : Nat → Builder → Option ((Node × Node) × Builder)
  | 0, _ => none
  | fuel + 1, b => do
      let (key, b) ←
        if b.at? .value || b.at? .flowEntry || b.at? .flowSequenceEnd then some (Node.blank, b.next)
        else node? fuel false false b
      let (value, b) ←
        if b.at? .value then
          let b := b.next
          if b.at? .flowEntry || b.at? .flowSequenceEnd then some (Node.blank, b)
          else node? fuel false false b
        else some (Node.blank, b)
      return ((key, value), b)

/-- The entries of a flow mapping up to its end; all but the first stand after a comma. -/
def flowEntries? : Nat → Bool → Builder → Option (List (Node × Node) × Builder)
  | 0, _, _ => none
  | fuel + 1, first, b =>
      if b.at? .flowMappingEnd then some ([], b.next)
      else if !first && !b.at? .flowEntry then none
      else
        let b := if first then b else b.next
        if b.at? .key then do
          let b := b.next
          let (key, b) ←
            if b.at? .value || b.at? .flowEntry || b.at? .flowMappingEnd then some (Node.blank, b)
            else node? fuel false false b
          let (value, b) ←
            if b.at? .value then
              let b := b.next
              if b.at? .flowEntry || b.at? .flowMappingEnd then some (Node.blank, b)
              else node? fuel false false b
            else some (Node.blank, b)
          let (entries, b) ← flowEntries? fuel false b
          return ((key, value) :: entries, b)
        else if b.at? .flowMappingEnd then some ([], b.next)
        else do
          let (key, b) ← node? fuel false false b
          let (entries, b) ← flowEntries? fuel false b
          return ((key, Node.blank) :: entries, b)

end

/-- The directives before a document: at most one version, 1.1 or 1.2, and tag handles of
different names. The flag says that a version was met. -/
def directives? : List Token → Bool → List (String × TagBytes) →
    Option (List Token × List (String × TagBytes))
  | .version major minor :: rest, versioned, handles =>
      if versioned || major != 1 || (minor != 1 && minor != 2) then none
      else directives? rest true handles
  | .tagHandle handle address :: rest, versioned, handles =>
      if handles.any (·.1 = handle) then none
      else directives? rest versioned (handles ++ [(handle, address)])
  | tokens, _, handles => some (tokens, handles)

/-- The handles in force without any directive. -/
def defaultHandles : List (String × TagBytes) :=
  [("!", .ofText "!"), ("!!", .ofText "tag:yaml.org,2002:")]

/-- Whether the content of a document is left out before the next token. -/
def endsDocument (b : Builder) : Bool :=
  match b.peek with
  | none => true
  | some (.version _ _) | some (.tagHandle _ _) | some .documentStart | some .documentEnd => true
  | _ => false

end Builder

/-- The document of a token sequence that holds exactly one. -/
def Document.ofTokens? (tokens : List Token) : Option Document := do
  let (rest, handles) ← Builder.directives? tokens false []
  let explicit := rest.head? = some .documentStart
  -- Directives are followed by the mark of the document's start.
  if rest.isEmpty || (!explicit && rest.length != tokens.length) then none
  else
    let b : Builder :=
      { tokens := if explicit then rest.drop 1 else rest
        handles := handles ++ Builder.defaultHandles
        names := []
        holders := []
        anchors := 0
        finished := [] }
    let (root, b) ←
      if explicit && b.endsDocument then some (Node.blank, b)
      else b.node? (4 * tokens.length + 8) true false
    if b.tokens.all (· = .documentEnd) then
      return { root
               anchored := b.holders.filterMap fun (number, anchor) =>
                 (Table.lookupIn anchor b.finished).map fun node => (number, node) }
    else none

end Dialogue.Yaml
