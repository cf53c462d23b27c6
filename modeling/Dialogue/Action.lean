/-
# Actions

What a press of an inline button asks for. An action has a short text of its own, which
travels with the button and comes back with the press. The name of the node may hold
colons, since the index is what follows the last one.
-/

import Dialogue.Flow.Basic
import Dialogue.Number.Integer
import Dialogue.Text.Split

namespace Dialogue

/-- What a press of an inline button asks for. -/
inductive Action where
  /-- Press a button of a node. -/
  | button (node : NodeId) (index : Nat)
  /-- Take an option of a selection in or out. -/
  | toggle (node : NodeId) (index : Nat)
  /-- End a selection. -/
  | done (node : NodeId)
deriving DecidableEq, Repr

namespace Action

/-- The node that the action belongs to. -/
def node : Action → NodeId
  | .button node _ => node
  | .toggle node _ => node
  | .done node => node

/-- The text of an action. -/
def text : Action → String
  | .button node index => s!"b:{node}:{index}"
  | .toggle node index => s!"t:{node}:{index}"
  | .done node => s!"d:{node}"

/-- A node and an index, divided by the last colon. -/
def indexed? (cs : List Char) : Option (NodeId × Nat) := do
  let (node, index) ← Text.splitLast? ':' cs
  if node.isEmpty then none
  else
    let n ← Number.readUnsigned? Number.unsigned64 index
    return (String.ofList node, n)

/-- The action of a text. -/
def parse? (s : String) : Option Action := do
  let (kind, rest) ← Text.splitFirst? ':' s.toList
  match kind with
  | ['b'] => (indexed? rest).map fun (node, index) => .button node index
  | ['t'] => (indexed? rest).map fun (node, index) => .toggle node index
  | ['d'] => if rest.isEmpty then none else some (.done (String.ofList rest))
  | _ => none

end Action

end Dialogue
