/-
# Flows

A flow is the whole conversation of one bot: nodes that are shown to a user, linked
by the node that comes next and by the targets of buttons, and the commands and words
that jump to a node from anywhere.

A node waits for the user if it collects a text, offers a selection or shows a button
that leads on. Any other node passes at once to the node after it; `Node.autoNext` is
that passage.
-/

import Dialogue.Text.Blank
import Dialogue.Text.Case

namespace Dialogue

/-- The name of a node. -/
abbrev NodeId := String

/-- How a text is to be shown. -/
inductive TextFormat where
  | plain
  | html
  | markdownV2
deriving DecidableEq, Repr, Inhabited

/-- Where the buttons of a keyboard appear. -/
inductive KeyboardKind where
  /-- Under the message. -/
  | inline
  /-- In place of the user's own keyboard; a press arrives as text. -/
  | reply
  /-- Nowhere: a keyboard left over from an earlier node goes away. -/
  | remove
deriving DecidableEq, Repr, Inhabited

/-- What a collected answer has to look like. -/
inductive AnswerKind where
  | text
  | email
  | number
  | phone
deriving DecidableEq, Repr, Inhabited

/-- A button of a node. -/
structure Button where
  text : String
  /-- The node it leads to; otherwise the node after the button's own. -/
  goto : Option NodeId := none
  /-- The answer it stands for; otherwise its text. -/
  value : Option String := none
  /-- The address it opens. -/
  url : Option String := none
deriving DecidableEq, Repr

/-- The answer that a press of the button gives. -/
def Button.answer (b : Button) : String := b.value.getD b.text

/-- The buttons of a node. -/
structure Keyboard where
  kind : KeyboardKind := .inline
  buttons : List Button := []
  /-- How many buttons stand in a row. -/
  columns : Nat := 1
  /-- Whether a reply keyboard goes away after one press. -/
  oneTime : Bool := false
  /-- Whether a reply keyboard shrinks to its buttons. -/
  resize : Bool := true
deriving DecidableEq, Repr

/-- Whether a button leads somewhere inside the flow. -/
def Keyboard.hasNavigation (k : Keyboard) : Bool :=
  k.kind != .remove && k.buttons.any fun b => b.url.isNone

/-- A text that a node collects. -/
structure Prompt where
  /-- The profile variable that receives the answer. -/
  variableName : String
  kind : AnswerKind := .text
  minLength : Option Nat := none
  maxLength : Option Nat := none
  /-- The notice after an answer that does not fit. -/
  retryText : Option String := none
deriving DecidableEq, Repr

/-- An option of a selection. -/
structure Choice where
  text : String
  value : Option String := none
deriving DecidableEq, Repr

/-- The value that stands for the option. -/
def Choice.answer (c : Choice) : String := c.value.getD c.text

/-- The text of the button that ends a selection, unless the flow gives its own. -/
def defaultDoneText : String := "✅ Готово"

/-- A selection of several options. -/
structure MultiSelect where
  /-- The profile variable that receives the selection. -/
  variableName : String
  options : List Choice
  doneText : String := defaultDoneText
  minSelected : Nat := 0
  columns : Nat := 1
deriving DecidableEq, Repr

/-- A node: what is shown, what is collected, and what comes next. -/
structure Node where
  id : NodeId
  text : String
  format : TextFormat := .plain
  photo : Option String := none
  keyboard : Option Keyboard := none
  input : Option Prompt := none
  multiSelect : Option MultiSelect := none
  /-- The profile variable that receives the answer of a pressed button. -/
  variableName : Option String := none
  next : Option NodeId := none
deriving DecidableEq, Repr

namespace Node

/-- The buttons of the node's keyboard. -/
def buttons (n : Node) : List Button := (n.keyboard.map (·.buttons)).getD []

/-- Whether the conversation stops here until the user acts. -/
def waits (n : Node) : Bool :=
  n.input.isSome || n.multiSelect.isSome || n.keyboard.any (·.hasNavigation)

/-- The node that follows without the user's doing. -/
def autoNext (n : Node) : Option NodeId := if n.waits then none else n.next

/-- The nodes mentioned here: the next one, then the targets of the buttons. -/
def targets (n : Node) : List NodeId := n.next.toList ++ n.buttons.filterMap (·.goto)

end Node

/-- A command of the flow's own. -/
structure Command where
  command : String
  description : String
  /-- The node it enters; without one the conversation starts anew. -/
  node : Option NodeId := none
deriving DecidableEq, Repr

/-- A text that jumps to a node. -/
structure Synonym where
  text : String
  node : NodeId
deriving DecidableEq, Repr

/-- The start node, unless the flow names another. -/
def defaultStart : NodeId := "start"

/-- What a user without a name is called, unless the flow says otherwise. -/
def defaultUserName : String := "Пользователь"

/-- A conversation. -/
structure Flow where
  name : String
  start : NodeId := defaultStart
  nodes : List Node
  commands : List Command := []
  synonyms : List Synonym := []
  helpText : Option String := none
  settingsNode : Option NodeId := none
  /-- The notice after a text that nothing else takes up. -/
  fallbackText : Option String := none
  userName : String := defaultUserName
deriving DecidableEq, Repr

/-- A command name without the slashes in front. -/
def dropSlashes (s : String) : String := String.ofList (s.toList.dropWhile (· = '/'))

/-- A text as synonyms are compared: without blanks at its ends and without regard to case. -/
def foldText (s : String) : String := Text.lower (Text.trim s)

namespace Flow

/-- The node of a name. -/
def node? (f : Flow) (id : NodeId) : Option Node := f.nodes.find? fun n => n.id = id

/-- The node bound to a command. The slashes in front of the name are ignored; those of the
flow's own spelling are not. -/
def commandNode? (f : Flow) (name : String) : Option NodeId :=
  (f.commands.find? fun c => Text.eqIgnoringAsciiCase c.command (dropSlashes name)).bind (·.node)

/-- The node that a text jumps to. -/
def synonymNode? (f : Flow) (text : String) : Option NodeId :=
  (f.synonyms.find? fun s => foldText s.text = foldText text).map (·.node)

end Flow

end Dialogue
