/-
# Screens

A node as one user sees it: the placeholders are filled in and the buttons laid out in
rows. An inline button carries the action that its press asks for, or the address that
it opens. A screen can fail to be drawn only because a row cannot be set aside.
-/

import Dialogue.Action
import Dialogue.Rows
import Dialogue.Template

namespace Dialogue

/-- What a press of an inline button does. -/
inductive ButtonEffect where
  | act (action : Action)
  | visit (url : String)
deriving DecidableEq, Repr

/-- An inline button. -/
structure ScreenButton where
  text : String
  effect : ButtonEffect
deriving DecidableEq, Repr

/-- The rows of an inline keyboard. -/
abbrev InlineRows := List (List ScreenButton)

/-- The keyboard of a screen. -/
inductive ScreenKeyboard where
  | none
  | inline (rows : InlineRows)
  | reply (rows : List (List String)) (oneTime resize : Bool)
  | remove
deriving DecidableEq, Repr

/-- A node as one user sees it. -/
structure Screen where
  node : NodeId
  text : String
  format : TextFormat
  photo : Option String
  keyboard : ScreenKeyboard
deriving DecidableEq, Repr

/-- What a user is shown, in the order of delivery. -/
inductive Reply where
  /-- Show a node. -/
  | screen (screen : Screen)
  /-- Tell something in plain text. -/
  | notice (text : String)
  /-- Replace the inline keyboard of the message that shows a node. -/
  | keyboard (node : NodeId) (rows : InlineRows)
deriving DecidableEq, Repr

namespace Screen

/-- The bytes of an inline button. -/
def buttonBytes : Nat := 64

/-- The bytes of a label on a reply keyboard. -/
def labelBytes : Nat := 24

/-- The mark in front of a selected option. -/
def selectedMark : String := "✅ "

/-- The button of an option. -/
def optionButton (node : NodeId) (selected : List String) (index : Nat) (c : Choice) :
    ScreenButton where
  text := if c.answer ∈ selected then selectedMark ++ c.text else c.text
  effect := .act (.toggle node index)

/-- The button that ends a selection. -/
def doneButton (node : NodeId) (m : MultiSelect) : ScreenButton :=
  ⟨m.doneText, .act (.done node)⟩

/-- The rows of a selection: its options, and the button that ends it in a row of its own. -/
def selectRows? (node : NodeId) (m : MultiSelect) (selected : List String) : Option InlineRows :=
  (Rows.layOut? buttonBytes m.columns (m.options.mapIdx (optionButton node selected))).map
    (· ++ [[doneButton node m]])

/-- The inline button of a node's button. -/
def inlineButton (node : NodeId) (vars : Variables) (index : Nat) (b : Button) : ScreenButton where
  text := Template.substitute .plain vars b.text
  effect := match b.url with
    | some url => .visit url
    | none => .act (.button node index)

/-- The keyboard of a node. A selection takes the place of any other keyboard. -/
def keyboard? (n : Node) (vars : Variables) (selected : List String) : Option ScreenKeyboard :=
  match n.multiSelect, n.keyboard with
  | some m, _ => (selectRows? n.id m selected).map .inline
  | none, none => some .none
  | none, some k =>
      match k.kind with
      | .inline =>
          (Rows.layOut? buttonBytes k.columns (k.buttons.mapIdx (inlineButton n.id vars))).map
            .inline
      | .reply =>
          (Rows.layOut? labelBytes k.columns (k.buttons.map (·.text))).map
            (.reply · k.oneTime k.resize)
      | .remove => some .remove

/-- A node as one user sees it. -/
def ofNode? (n : Node) (vars : Variables) (selected : List String) : Option Screen :=
  (keyboard? n vars selected).map fun keyboard => {
    node := n.id
    text := Template.substitute n.format vars n.text
    format := n.format
    photo := n.photo
    keyboard }

end Screen

end Dialogue
