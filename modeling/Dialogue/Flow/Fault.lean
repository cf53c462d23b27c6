/-
# Faults of a flow

The rules that a flow has to keep before a conversation may follow it, and the error
for each. `Flow.fault?` reports the first broken rule in a fixed order: there are
nodes, their names differ, the start exists; then node by node its own rules and the
targets it mentions; then the targets of commands, of synonyms and of the settings;
last, no chain of automatic passages runs in a circle.
-/

import Dialogue.Flow.Basic

namespace Dialogue

/-- A broken rule of a single node. -/
inductive NodeFault where
  | inputVariableEmpty
  | lengthsCrossed
  | selectVariableEmpty
  | noOptions
  | tooManyRequired
  | noColumns
  | urlWithTarget
  | urlOnReplyKeyboard
  | variableEmpty
deriving DecidableEq, Repr

/-- The wording of a broken rule. -/
def NodeFault.message : NodeFault → String
  | .inputVariableEmpty => "input variable is empty"
  | .lengthsCrossed => "min_length is greater than max_length"
  | .selectVariableEmpty => "multi_select variable is empty"
  | .noOptions => "multi_select has no options"
  | .tooManyRequired => "min_selected exceeds the number of options"
  | .noColumns => "keyboard columns must be positive"
  | .urlWithTarget => "url buttons cannot carry goto or value"
  | .urlOnReplyKeyboard => "reply keyboards cannot hold url buttons"
  | .variableEmpty => "variable is empty"

/-- Why a flow cannot be loaded or followed. -/
inductive FlowError where
  /-- The file cannot be read. -/
  | unreadable (path reason : String)
  /-- The text is no description of a flow. -/
  | malformed
  | empty
  | duplicateNode (id : NodeId)
  | missingStart (id : NodeId)
  | unknownNode (source target : String)
  | invalidNode (id : NodeId) (fault : NodeFault)
  | autoAdvanceCycle (ids : List NodeId)
  | autoAdvanceLimit (id : NodeId) (steps : Nat)
deriving DecidableEq, Repr

/-- The wording of an error. -/
def FlowError.message : FlowError → String
  | .unreadable path reason => s!"Failed to read flow file {path}: {reason}"
  | .malformed => "Failed to parse flow"
  | .empty => "Flow has no nodes"
  | .duplicateNode id => s!"Duplicate node id `{id}`"
  | .missingStart id => s!"Start node `{id}` is not defined"
  | .unknownNode source target => s!"`{source}` refers to unknown node `{target}`"
  | .invalidNode id fault => s!"Invalid node `{id}`: {fault.message}"
  | .autoAdvanceCycle ids => s!"Auto-advance cycle: " ++ " -> ".intercalate ids
  | .autoAdvanceLimit id steps => s!"Auto-advance from `{id}` exceeded {steps} steps"

section NodeRules

/-- The first broken rule of a prompt. -/
def Prompt.fault? (p : Prompt) : Option NodeFault :=
  if Text.isBlankText p.variableName then some .inputVariableEmpty
  else match p.minLength, p.maxLength with
    | some least, some most => if most < least then some .lengthsCrossed else none
    | _, _ => none

/-- The first broken rule of a selection. -/
def MultiSelect.fault? (m : MultiSelect) : Option NodeFault :=
  if Text.isBlankText m.variableName then some .selectVariableEmpty
  else if m.options.isEmpty then some .noOptions
  else if m.options.length < m.minSelected then some .tooManyRequired
  else none

/-- The first broken rule of a button on a keyboard of some kind. -/
def Button.fault? (kind : KeyboardKind) (b : Button) : Option NodeFault :=
  if b.url.isSome && (b.goto.isSome || b.value.isSome) then some .urlWithTarget
  else if b.url.isSome && kind == .reply then some .urlOnReplyKeyboard
  else none

/-- The first broken rule of a keyboard. -/
def Keyboard.fault? (k : Keyboard) : Option NodeFault :=
  if k.columns = 0 then some .noColumns else k.buttons.findSome? (Button.fault? k.kind)

/-- The first broken rule of a node, its targets apart. -/
def Node.fault? (n : Node) : Option NodeFault :=
  n.input.bind Prompt.fault? <|> n.multiSelect.bind MultiSelect.fault? <|>
    n.keyboard.bind Keyboard.fault? <|>
    n.variableName.bind fun v => if Text.isBlankText v then some .variableEmpty else none

end NodeRules

namespace Flow

/-- The first name that a node shares with an earlier one. -/
def firstRepeated? : List NodeId → List NodeId → Option NodeId
  | _, [] => none
  | seen, id :: rest => if id ∈ seen then some id else firstRepeated? (id :: seen) rest

/-- The error of a reference to a node that is not there. -/
def targetFault? (f : Flow) (source : String) (target : NodeId) : Option FlowError :=
  if (f.node? target).isSome then none else some (.unknownNode source target)

/-- The first error of a node: its own rules, then the nodes it mentions. -/
def nodeFault? (f : Flow) (n : Node) : Option FlowError :=
  n.fault?.map (.invalidNode n.id) <|> n.targets.findSome? (f.targetFault? n.id)

/-- The first command that names no node of the flow. -/
def commandFault? (f : Flow) (c : Command) : Option FlowError :=
  c.node.bind (f.targetFault? ("/" ++ c.command))

/-- Follow the automatic passages of a node. `passed` holds the nodes passed so far, the last one
first; the answer is the circle, from its first node on the way back to that node. The first
argument bounds the number of passages: a way longer than the flow repeats a node. -/
def circleFrom? (f : Flow) : Nat → List NodeId → Node → Option (List NodeId)
  | 0, _, _ => none
  | fuel + 1, passed, current =>
      match current.autoNext with
      | none => none
      | some next =>
          if next ∈ passed then some (next :: (passed.takeWhile (· ≠ next)).reverse ++ [next])
          else match f.node? next with
            | some n => circleFrom? f fuel (next :: passed) n
            | none => none

/-- The circle that the passages of a node run into. -/
def circleOf? (f : Flow) (n : Node) : Option (List NodeId) :=
  f.circleFrom? (f.nodes.length + 1) [n.id] n

/-- The first broken rule of a flow. -/
def fault? (f : Flow) : Option FlowError :=
  (if f.nodes.isEmpty then some .empty else none) <|>
    (firstRepeated? [] (f.nodes.map (·.id))).map .duplicateNode <|>
    (if (f.node? f.start).isSome then none else some (.missingStart f.start)) <|>
    f.nodes.findSome? f.nodeFault? <|>
    f.commands.findSome? f.commandFault? <|>
    f.synonyms.findSome? (fun s => f.targetFault? s.text s.node) <|>
    f.settingsNode.bind (f.targetFault? "settings_node") <|>
    (f.nodes.findSome? f.circleOf?).map .autoAdvanceCycle

/-- A flow that keeps all rules. -/
def Accepted (f : Flow) : Prop := f.fault? = none

instance (f : Flow) : Decidable f.Accepted := inferInstanceAs (Decidable (f.fault? = none))

end Flow

end Dialogue
