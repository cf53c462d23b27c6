/-
# Conversations

How a flow is walked. An event of a user finds the session where the last one left it,
changes session and profile, and yields replies. Entering a node shows it and goes on
through the nodes that do not wait; such a passage is cut off after a fixed number of
steps.

Time is an argument of every event. A turn that runs into an error keeps what it did to
the session and the profile, but its replies are dropped. A turn that cannot lay out a
keyboard leaves the session unsaved.
-/

import Dialogue.Answer
import Dialogue.Flow.Fault
import Dialogue.Profile.Basic
import Dialogue.Screen
import Dialogue.Session

namespace Dialogue

/-- What a user did. -/
inductive Trigger where
  /-- Begin anew. -/
  | start
  /-- Jump to a node. -/
  | enter (node : NodeId)
  /-- Press an inline button. -/
  | act (action : Action)
  /-- Write a text, or press a button of a reply keyboard. -/
  | say (text : String)
deriving DecidableEq, Repr

/-- Something that a user did. -/
structure Event where
  user : User
  trigger : Trigger
deriving DecidableEq, Repr

/-- Why a turn broke off. -/
inductive Failure where
  | flow (e : FlowError)
  /-- A row of a keyboard cannot be set aside. -/
  | noRoom
deriving DecidableEq, Repr

/-- What an event led to. -/
inductive Outcome where
  | replies (replies : List Reply)
  | failed (e : FlowError)
  | crashed
deriving DecidableEq, Repr

/-- An event while it is being handled. -/
structure Turn (σ : Type) where
  session : Session
  profiles : σ
  replies : List Reply := []
  failure : Option Failure := none

/-- The most nodes that are shown in one passage. -/
def maxAutoAdvance : Nat := 64

namespace Turn

variable {σ : Type} [ProfileStore σ]

/-- Add a reply. -/
def reply (t : Turn σ) (r : Reply) : Turn σ := { t with replies := t.replies ++ [r] }

/-- Break off. -/
def fail (t : Turn σ) (f : Failure) : Turn σ := { t with failure := some f }

/-- Store an answer. A store that refuses it does not stop the conversation. -/
def store (t : Turn σ) (user : UserId) (key : String) (value : Value) : Turn σ :=
  { t with profiles := (ProfileStore.write t.profiles user key value).2 }

/-- The answers of a user; none if the store cannot give them. -/
def profile (t : Turn σ) (user : UserId) : Profile :=
  match (ProfileStore.read t.profiles user).1 with
  | .ok profile => profile
  | .error _ => ∅

/-- The turn after the answers of a user have been asked for. -/
def afterRead (t : Turn σ) (user : UserId) : Turn σ :=
  { t with profiles := (ProfileStore.read t.profiles user).2 }

/-- The values of names in templates for a user. -/
def vars (t : Turn σ) (flow : Flow) (user : User) : Variables :=
  user.vars (t.profile user.id) flow.userName

/-- Take up a node: it is the current one, it waits for its answer, and its selection is empty. -/
def arrive (s : Session) (n : Node) : Session where
  current := some n.id
  pending := n.input.map fun prompt => { node := n.id, prompt, next := n.next }
  selections := if n.multiSelect.isSome then s.selections.insert n.id [] else s.selections

/-- Show a node and go on through the nodes that do not wait. The second argument bounds the number
of nodes; `first` is the node that the passage began with. -/
def enterFrom (flow : Flow) (user : User) (first : NodeId) : Nat → NodeId → Turn σ → Turn σ
  | 0, _, t => t.fail (.flow (.autoAdvanceLimit first maxAutoAdvance))
  | steps + 1, id, t =>
      match flow.node? id with
      | none => t.fail (.flow (.unknownNode (t.session.current.getD "") id))
      | some n =>
          let t := { t with session := arrive t.session n }
          let vars := t.vars flow user
          let t := t.afterRead user.id
          match Screen.ofNode? n vars (t.session.selected n.id) with
          | none => t.fail .noRoom
          | some screen =>
              let t := t.reply (.screen screen)
              match n.autoNext with
              | some next => enterFrom flow user first steps next t
              | none => t

/-- Enter a node. -/
def enter (flow : Flow) (user : User) (id : NodeId) (t : Turn σ) : Turn σ :=
  enterFrom flow user id maxAutoAdvance id t

/-- Enter a node if there is one. -/
def enter? (flow : Flow) (user : User) (id : Option NodeId) (t : Turn σ) : Turn σ :=
  match id with
  | some id => t.enter flow user id
  | none => t

/-- Press a button: its answer is stored, and the conversation goes on where it leads. -/
def press (flow : Flow) (user : User) (n : Node) (b : Button) (t : Turn σ) : Turn σ :=
  let t := match n.variableName with
    | some name => t.store user.id name (.text b.answer)
    | none => t
  t.enter? flow user (b.goto <|> n.next)

/-- The notice that more options have to be selected. -/
def tooFewNotice (least : Nat) : String := s!"❌ Выберите хотя бы {least} вариант(ов)."

/-- End the selection of a node, if enough options are selected. -/
def finish (flow : Flow) (user : User) (n : Node) (t : Turn σ) : Turn σ :=
  match n.multiSelect with
  | none => t
  | some m =>
      let selected := t.session.selected n.id
      if selected.length < m.minSelected then
        { t with session := t.session.select n.id selected }.reply
          (.notice (tooFewNotice m.minSelected))
      else
        let t := { t with session := t.session.forget n.id }
        let t := t.store user.id m.variableName (.ofTexts selected)
        t.enter? flow user n.next

/-- A selection with a value taken out, or put at its end. -/
def toggled (selected : List String) (value : String) : List String :=
  if value ∈ selected then selected.erase value else selected ++ [value]

/-- Take an option in or out, and show the selection. -/
def toggle (n : Node) (index : Nat) (t : Turn σ) : Turn σ :=
  match n.multiSelect with
  | none => t
  | some m =>
      match m.options[index]? with
      | none => t
      | some c =>
          let selected := toggled (t.session.selected n.id) c.answer
          let t := { t with session := t.session.select n.id selected }
          match Screen.selectRows? n.id m selected with
          | none => t.fail .noRoom
          | some rows => t.reply (.keyboard n.id rows)

/-- Do what an inline button asks for. One that belongs to nothing is ignored. -/
def act (flow : Flow) (user : User) (action : Action) (t : Turn σ) : Turn σ :=
  match flow.node? action.node with
  | none => t
  | some n =>
      match action with
      | .button _ index =>
          match n.buttons[index]? with
          | some b => t.press flow user n b
          | none => t
      | .toggle _ index => t.toggle n index
      | .done _ => t.finish flow user n

/-- The button of a reply keyboard that a text presses. -/
def replyButton? (n : Node) (text : String) : Option Button :=
  n.keyboard.bind fun k =>
    if k.kind = .reply then k.buttons.find? fun b => b.text = text else none

/-- Take a text as the answer to a prompt. -/
def answer (flow : Flow) (user : User) (p : Pending) (text : String) (t : Turn σ) : Turn σ :=
  match p.prompt.accept text with
  | .ok answer =>
      let t := t.store user.id p.prompt.variableName (.text answer)
      let t := { t with session := { t.session with pending := none } }
      t.enter? flow user p.next
  | .error rejection => t.reply (.notice (p.prompt.noticeOf rejection))

/-- What is said to a text that nothing takes up. -/
def fallback (flow : Flow) (user : User) (t : Turn σ) : Turn σ :=
  match flow.fallbackText with
  | some text =>
      (t.afterRead user.id).reply
        (.notice (Template.substitute .plain (t.vars flow user) text))
  | none => t

/-- Whether a text is the one that ends the selection of a node. -/
def endsSelection (n : Node) (text : String) : Bool :=
  n.multiSelect.any fun m => m.doneText = text

/-- Take up a text. It is tried as a button of the current reply keyboard, as a synonym, as the
answer to the prompt that waits, and as the end of the current selection. -/
def say (flow : Flow) (user : User) (text : String) (t : Turn σ) : Turn σ :=
  let text := Text.trim text
  let current := t.session.current.bind flow.node?
  match current.bind fun n => (replyButton? n text).map fun b => (n, b) with
  | some (n, b) => t.press flow user n b
  | none =>
      match flow.synonymNode? text with
      | some target => t.enter flow user target
      | none =>
          match t.session.pending with
          | some p => t.answer flow user p text
          | none =>
              match current.filter fun n => endsSelection n text with
              | some n => t.finish flow user n
              | none => t.fallback flow user

/-- Do what a trigger asks for. -/
def dispatch (flow : Flow) (user : User) (trigger : Trigger) (t : Turn σ) : Turn σ :=
  match trigger with
  | .start => t.enter flow user flow.start
  | .enter node => t.enter flow user node
  | .act action => t.act flow user action
  | .say text => t.say flow user text

end Turn

/-- All that a bot knows of its users. -/
structure Conversation (σ : Type) where
  sessions : SessionStore
  profiles : σ

namespace Conversation

variable {σ : Type} [ProfileStore σ]

/-- The session that an event finds: a fresh one at the start, the saved one otherwise. -/
def sessionFor (c : Conversation σ) (now : Time) (e : Event) : Session × SessionStore :=
  if e.trigger = .start then (.fresh, c.sessions.reset e.user.id)
  else c.sessions.get e.user.id now

/-- Handle an event. -/
def handle (flow : Flow) (now : Time) (e : Event) (c : Conversation σ) :
    Outcome × Conversation σ :=
  let profiles := (ProfileStore.record c.profiles e.user).2
  let (session, sessions) := c.sessionFor now e
  let t : Turn σ := Turn.dispatch flow e.user e.trigger { session, profiles }
  match t.failure with
  | some .noRoom => (.crashed, { sessions, profiles := t.profiles })
  | some (.flow error) =>
      (.failed error, { sessions := sessions.save e.user.id t.session now, profiles := t.profiles })
  | none =>
      (.replies t.replies,
        { sessions := sessions.save e.user.id t.session now, profiles := t.profiles })

/-- The answers of a user as they are shown, in the order of the variables. -/
def profileLines (c : Conversation σ) (user : UserId) : List (String × String) × Conversation σ :=
  let (result, profiles) := ProfileStore.read c.profiles user
  let profile := match result with
    | .ok profile => profile
    | .error _ => ∅
  (profile.toList.map fun (key, value) => (key, value.display), { c with profiles })

/-- Drop the sessions that are over, and count them. -/
def purge (c : Conversation σ) (now : Time) : Nat × Conversation σ :=
  let (count, sessions) := c.sessions.purge now
  (count, { c with sessions })

end Conversation

end Dialogue
