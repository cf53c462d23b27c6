/-
# What an event amounts to

Handling an event looks at the session first and acts afterwards. This module separates the
two. `Session.move` says what a trigger amounts to in a session, and there are nine such
moves; `Turn.perform` carries a move out in four steps that are the same for all of them:
an answer is stored, the session is settled, something is said, and a node is entered.
`Turn.dispatch_eq_perform` states that nothing else ever happens.

Whatever is to be shown of every event is then shown of the four steps. What can be assumed of
a move is collected in `Move.Justified`.
-/

import Dialogue.Conversation
import Dialogue.Proofs.Flow.Passage

namespace Dialogue

/-- What an event amounts to, once the session has been looked at. -/
inductive Move where
  /-- Nothing takes the event up. -/
  | idle
  /-- Go to a node. -/
  | enter (target : NodeId)
  /-- Press a button of a node. -/
  | press (node : Node) (button : Button)
  /-- Take an option of a selection in or out. -/
  | toggle (node : Node) (select : MultiSelect) (choice : Choice)
  /-- Refuse to end a selection that is too small. -/
  | insist (node : Node) (select : MultiSelect)
  /-- End a selection. -/
  | finish (node : Node) (select : MultiSelect)
  /-- Take an answer to the prompt that waits. -/
  | accept (pending : Pending) (answer : String)
  /-- Refuse an answer to the prompt that waits. -/
  | reject (pending : Pending) (rejection : Rejection)
  /-- Say that nothing takes the text up. -/
  | remark (text : String)

namespace Session

theorem selected_select (s : Session) (node other : NodeId) (values : List String) :
    (s.select node values).selected other = if other = node then values else s.selected other := by
  rw [selected, select]
  rw [Table.get?_insert]
  split <;> rfl

@[simp]
theorem selected_select_self (s : Session) (node : NodeId) (values : List String) :
    (s.select node values).selected node = values := by
  rw [selected_select, if_pos rfl]

/-- What the end of a selection amounts to. -/
def finishing (s : Session) (n : Node) : Move :=
  match n.multiSelect with
  | none => .idle
  | some m => if (s.selected n.id).length < m.minSelected then .insist n m else .finish n m

/-- What a press of an inline button amounts to. -/
def acting (flow : Flow) (s : Session) (action : Action) : Move :=
  match flow.node? action.node with
  | none => .idle
  | some n =>
      match action with
      | .button _ index =>
          match n.buttons[index]? with
          | some b => .press n b
          | none => .idle
      | .toggle _ index =>
          match n.multiSelect with
          | none => .idle
          | some m =>
              match m.options[index]? with
              | none => .idle
              | some c => .toggle n m c
      | .done _ => s.finishing n

/-- What a text amounts to as the answer to a prompt. -/
def answering (p : Pending) (text : String) : Move :=
  match p.prompt.accept text with
  | .ok answer => .accept p answer
  | .error rejection => .reject p rejection

/-- What a text amounts to. -/
def saying (flow : Flow) (s : Session) (text : String) : Move :=
  let text := Text.trim text
  let current := s.current.bind flow.node?
  match current.bind fun n => (Turn.replyButton? n text).map fun b => (n, b) with
  | some (n, b) => .press n b
  | none =>
      match flow.synonymNode? text with
      | some target => .enter target
      | none =>
          match s.pending with
          | some p => answering p text
          | none =>
              match current.filter fun n => Turn.endsSelection n text with
              | some n => s.finishing n
              | none =>
                  match flow.fallbackText with
                  | some text => .remark text
                  | none => .idle

/-- What a trigger amounts to in a session. -/
def move (flow : Flow) (s : Session) : Trigger → Move
  | .start => .enter flow.start
  | .enter node => .enter node
  | .act action => s.acting flow action
  | .say text => s.saying flow text

end Session

namespace Move

/-- The variable that receives an answer, and the answer. -/
def answer? (s : Session) : Move → Option (String × Value)
  | .press n b => n.variableName.map fun name => (name, .text b.answer)
  | .finish n m => some (m.variableName, .ofTexts (s.selected n.id))
  | .accept p answer => some (p.prompt.variableName, .text answer)
  | _ => none

/-- The session after a move, before any node is entered. -/
def settle : Move → Session → Session
  | .toggle n _ c, s => s.select n.id (Turn.toggled (s.selected n.id) c.answer)
  | .insist n _, s => s.select n.id (s.selected n.id)
  | .finish n _, s => s.forget n.id
  | .accept _ _, s => { s with pending := none }
  | _, s => s

/-- The node that a move enters. -/
def target? : Move → Option NodeId
  | .enter target => some target
  | .press n b => b.goto <|> n.next
  | .finish n _ => n.next
  | .accept p _ => p.next
  | _ => none

end Move

namespace Turn

variable {σ : Type} [ProfileStore σ]

/-- Store an answer if there is one. -/
def keep (t : Turn σ) (user : UserId) : Option (String × Value) → Turn σ
  | some (key, value) => t.store user key value
  | none => t

/-- Say what a move calls for, apart from the nodes it enters. -/
def utter (flow : Flow) (user : User) : Move → Turn σ → Turn σ
  | .toggle n m _, t =>
      match Screen.selectRows? n.id m (t.session.selected n.id) with
      | none => t.fail .noRoom
      | some rows => t.reply (.keyboard n.id rows)
  | .insist _ m, t => t.reply (.notice (tooFewNotice m.minSelected))
  | .reject p rejection, t => t.reply (.notice (p.prompt.noticeOf rejection))
  | .remark text, t =>
      (t.afterRead user.id).reply (.notice (Template.substitute .plain (t.vars flow user) text))
  | _, t => t

/-- Carry a move out as far as the node that it enters: store, settle, say. -/
def prepare (flow : Flow) (user : User) (move : Move) (t : Turn σ) : Turn σ :=
  utter flow user move
    { t.keep user.id (move.answer? t.session) with session := move.settle t.session }

/-- Carry a move out. -/
def perform (flow : Flow) (user : User) (move : Move) (t : Turn σ) : Turn σ :=
  (t.prepare flow user move).enter? flow user move.target?

/-! ## An event is its move, carried out -/

theorem press_eq_perform (flow : Flow) (user : User) (n : Node) (b : Button) (t : Turn σ) :
    t.press flow user n b = t.perform flow user (.press n b) := by
  unfold press perform prepare utter keep
  dsimp only [Move.answer?, Move.settle, Move.target?]
  cases n.variableName with
  | none => rfl
  | some name => rfl

theorem finish_eq_perform (flow : Flow) (user : User) (n : Node) (t : Turn σ) :
    t.finish flow user n = t.perform flow user (t.session.finishing n) := by
  rw [finish, Session.finishing]
  cases n.multiSelect with
  | none => rfl
  | some m =>
      by_cases few : (t.session.selected n.id).length < m.minSelected
      · simp only [few, if_true]
        rfl
      · simp only [few, if_false]
        rfl

theorem toggle_eq_perform (flow : Flow) (user : User) (n : Node) (m : MultiSelect) (c : Choice)
    (index : Nat) (t : Turn σ) (selects : n.multiSelect = some m)
    (found : m.options[index]? = some c) :
    t.toggle n index = t.perform flow user (.toggle n m c) := by
  rw [toggle]
  rw [selects]
  dsimp only
  rw [found]
  rw [perform, prepare, utter]
  dsimp only [Move.settle]
  rw [Session.selected_select_self]
  cases Screen.selectRows? n.id m (toggled (t.session.selected n.id) c.answer) with
  | none => rfl
  | some rows => rfl

theorem answer_eq_perform (flow : Flow) (user : User) (p : Pending) (text : String) (t : Turn σ) :
    t.answer flow user p text = t.perform flow user (Session.answering p text) := by
  rw [answer, Session.answering]
  cases p.prompt.accept text with
  | ok answer => rfl
  | error rejection => rfl

theorem act_eq_perform (flow : Flow) (user : User) (action : Action) (t : Turn σ) :
    t.act flow user action = t.perform flow user (t.session.acting flow action) := by
  rw [act, Session.acting]
  cases flow.node? action.node with
  | none => rfl
  | some n =>
      cases action with
      | button _ index =>
          cases pressed : n.buttons[index]? with
          | none => simp only [pressed]; rfl
          | some b => simp only [pressed]; exact press_eq_perform flow user n b t
      | toggle _ index =>
          cases selects : n.multiSelect with
          | none => simp only [toggle, selects]; rfl
          | some m =>
              cases found : m.options[index]? with
              | none => simp only [toggle, selects, found]; rfl
              | some c =>
                  simp only [selects, found]
                  exact toggle_eq_perform flow user n m c index t selects found
      | done _ => exact finish_eq_perform flow user n t

theorem say_eq_perform (flow : Flow) (user : User) (text : String) (t : Turn σ) :
    t.say flow user text = t.perform flow user (t.session.saying flow text) := by
  unfold say Session.saying
  dsimp only
  cases (t.session.current.bind flow.node?).bind fun n =>
      (replyButton? n (Text.trim text)).map fun b => (n, b) with
  | some pressed => exact press_eq_perform flow user pressed.1 pressed.2 t
  | none =>
      cases flow.synonymNode? (Text.trim text) with
      | some target => rfl
      | none =>
          cases t.session.pending with
          | some p => exact answer_eq_perform flow user p _ t
          | none =>
              cases (t.session.current.bind flow.node?).filter
                  fun n => endsSelection n (Text.trim text) with
              | some n => exact finish_eq_perform flow user n t
              | none =>
                  rw [fallback]
                  cases flow.fallbackText with
                  | some remark => rfl
                  | none => rfl

/-- Handling a trigger is carrying out the move that the session makes of it. -/
theorem dispatch_eq_perform (flow : Flow) (user : User) (trigger : Trigger) (t : Turn σ) :
    t.dispatch flow user trigger = t.perform flow user (t.session.move flow trigger) := by
  cases trigger with
  | start => rfl
  | enter node => rfl
  | act action => exact act_eq_perform flow user action t
  | say text => exact say_eq_perform flow user text t

/-! ## One node of a passage -/

/-- The turn when a node has been taken up and the answers of the user have been read. -/
def takenUp (user : User) (n : Node) (t : Turn σ) : Turn σ :=
  { t with session := arrive t.session n }.afterRead user.id

/-- The node as it is shown in a turn. -/
def screen? (flow : Flow) (user : User) (n : Node) (t : Turn σ) : Option Screen :=
  Screen.ofNode? n (t.vars flow user) ((arrive t.session n).selected n.id)

theorem enterFrom_of_missing {flow : Flow} {user : User} {id : NodeId} (first : NodeId)
    (steps : Nat) (t : Turn σ) (missing : flow.node? id = none) :
    enterFrom flow user first (steps + 1) id t =
      t.fail (.flow (.unknownNode (t.session.current.getD "") id)) := by
  rw [enterFrom, missing]

theorem enterFrom_of_found {flow : Flow} {id : NodeId} {n : Node} (user : User) (first : NodeId)
    (steps : Nat) (t : Turn σ) (found : flow.node? id = some n) :
    enterFrom flow user first (steps + 1) id t =
      match t.screen? flow user n with
      | none => (t.takenUp user n).fail .noRoom
      | some screen =>
          match n.autoNext with
          | some next =>
              enterFrom flow user first steps next ((t.takenUp user n).reply (.screen screen))
          | none => (t.takenUp user n).reply (.screen screen) := by
  rw [enterFrom, found]
  rfl

/-! ## The session of a turn -/

/-- Before a node is entered, the session is only settled. -/
@[simp]
theorem prepare_session (flow : Flow) (user : User) (move : Move) (t : Turn σ) :
    (t.prepare flow user move).session = move.settle t.session := by
  unfold prepare utter
  split
  · split <;> rfl
  all_goals rfl

/-- A passage changes the session only by taking up nodes of the flow. -/
theorem session_enterFrom {P : Session → Prop} {flow : Flow} {user : User} {first : NodeId}
    (arrives : ∀ s n, flow.node? n.id = some n → P s → P (arrive s n))
    (steps : Nat) (id : NodeId) (t : Turn σ) (holds : P t.session) :
    P (enterFrom flow user first steps id t).session := by
  induction steps generalizing id t with
  | zero => exact holds
  | succ steps ih =>
      cases found : flow.node? id with
      | none =>
          rw [enterFrom_of_missing first steps t found]
          exact holds
      | some n =>
          have arrived : P (t.takenUp user n).session :=
            arrives t.session n (Flow.node?_id_of_node? found) holds
          rw [enterFrom_of_found user first steps t found]
          split
          · exact arrived
          · split
            · exact ih _ _ arrived
            · exact arrived

/-- A move changes the session by settling it and by taking up nodes of the flow. -/
theorem session_perform {P : Session → Prop} {flow : Flow} {user : User} {move : Move}
    (arrives : ∀ s n, flow.node? n.id = some n → P s → P (arrive s n))
    (t : Turn σ) (settled : P (move.settle t.session)) : P (t.perform flow user move).session := by
  have prepared : P (t.prepare flow user move).session := by
    rw [prepare_session]
    exact settled
  unfold perform enter?
  cases move.target? with
  | none => exact prepared
  | some id => exact session_enterFrom arrives maxAutoAdvance id _ prepared

/-! ## The profiles of a turn -/

section Profiles

variable {P : σ → Prop} {flow : Flow} {user : User}

/-- A passage only reads the answers of its user. -/
theorem profiles_enterFrom (reads : ∀ s, P s → P (ProfileStore.read s user.id).2) {first : NodeId}
    (steps : Nat) (id : NodeId) (t : Turn σ) (holds : P t.profiles) :
    P (enterFrom flow user first steps id t).profiles := by
  induction steps generalizing id t with
  | zero => exact holds
  | succ steps ih =>
      cases found : flow.node? id with
      | none =>
          rw [enterFrom_of_missing first steps t found]
          exact holds
      | some n =>
          have read : P (t.takenUp user n).profiles := reads t.profiles holds
          rw [enterFrom_of_found user first steps t found]
          split
          · exact read
          · split
            · exact ih _ _ read
            · exact read

/-- A move writes first, if at all, and only reads from then on. -/
theorem profiles_perform (reads : ∀ s, P s → P (ProfileStore.read s user.id).2) {move : Move}
    (t : Turn σ) (kept : P (t.keep user.id (move.answer? t.session)).profiles) :
    P (t.perform flow user move).profiles := by
  have prepared : P (t.prepare flow user move).profiles := by
    cases move with
    | toggle n m c =>
        unfold prepare utter
        dsimp only
        split
        · exact kept
        · exact kept
    | remark text => exact reads _ kept
    | _ => exact kept
  unfold perform enter?
  cases move.target? with
  | none => exact prepared
  | some id => exact profiles_enterFrom reads maxAutoAdvance id _ prepared

end Profiles

end Turn

/-! ## What a move can be taken for granted to be -/

namespace Move

/-- What holds of a move besides its constructor: the nodes, buttons and options are those of the
flow, the prompt is the one that waits, and a selection is ended exactly when it is large enough. -/
def Justified (flow : Flow) (s : Session) (trigger : Trigger) : Move → Prop
  | .idle => True
  | .enter target =>
      (trigger = .start ∧ target = flow.start) ∨ trigger = .enter target ∨
        ∃ synonym ∈ flow.synonyms, synonym.node = target
  | .press n b => flow.node? n.id = some n ∧ b ∈ n.buttons
  | .toggle n m c => flow.node? n.id = some n ∧ n.multiSelect = some m ∧ c ∈ m.options
  | .insist n m =>
      flow.node? n.id = some n ∧ n.multiSelect = some m ∧
        (s.selected n.id).length < m.minSelected
  | .finish n m =>
      flow.node? n.id = some n ∧ n.multiSelect = some m ∧
        m.minSelected ≤ (s.selected n.id).length
  | .accept p answer => s.pending = some p ∧ ∃ text, p.prompt.accept text = .ok answer
  | .reject p rejection => s.pending = some p ∧ ∃ text, p.prompt.accept text = .error rejection
  | .remark text => flow.fallbackText = some text

end Move

namespace Session

variable {flow : Flow} {s : Session} {trigger : Trigger}

theorem finishing_justified {n : Node} (found : flow.node? n.id = some n) :
    (s.finishing n).Justified flow s trigger := by
  rw [finishing]
  cases selects : n.multiSelect with
  | none => trivial
  | some m =>
      dsimp only
      split
      · next few => exact ⟨found, selects, few⟩
      · next enough => exact ⟨found, selects, Nat.le_of_not_lt enough⟩

theorem acting_justified (action : Action) : (s.acting flow action).Justified flow s trigger := by
  rw [acting]
  cases found : flow.node? action.node with
  | none => trivial
  | some n =>
      have self : flow.node? n.id = some n := Flow.node?_id_of_node? found
      cases action with
      | button _ index =>
          dsimp only
          cases pressed : n.buttons[index]? with
          | none => trivial
          | some b => exact ⟨self, List.mem_of_getElem? pressed⟩
      | toggle _ index =>
          dsimp only
          cases selects : n.multiSelect with
          | none => trivial
          | some m =>
              dsimp only
              cases chosen : m.options[index]? with
              | none => trivial
              | some c => exact ⟨self, selects, List.mem_of_getElem? chosen⟩
      | done _ => exact finishing_justified self

theorem answering_justified {p : Pending} (text : String) (waiting : s.pending = some p) :
    (answering p text).Justified flow s trigger := by
  rw [answering]
  cases checked : p.prompt.accept text with
  | ok answer => exact ⟨waiting, text, checked⟩
  | error rejection => exact ⟨waiting, text, checked⟩

/-- A button that a text presses is a button of its node. -/
theorem mem_buttons_of_replyButton? {n : Node} {text : String} {b : Button}
    (pressed : Turn.replyButton? n text = some b) : b ∈ n.buttons := by
  rw [Turn.replyButton?] at pressed
  obtain ⟨k, shown, pressed⟩ := Option.bind_eq_some_iff.1 pressed
  split at pressed
  · have listed : b ∈ k.buttons := List.mem_of_find?_eq_some pressed
    rw [Node.buttons]
    rw [shown]
    exact listed
  · cases pressed

theorem saying_justified (text : String) : (s.saying flow text).Justified flow s trigger := by
  have self {n : Node} (here : s.current.bind flow.node? = some n) : flow.node? n.id = some n := by
    obtain ⟨id, _, found⟩ := Option.bind_eq_some_iff.1 here
    exact Flow.node?_id_of_node? found
  unfold saying
  dsimp only
  cases reply : (s.current.bind flow.node?).bind fun n =>
      (Turn.replyButton? n (Text.trim text)).map fun b => (n, b) with
  | some pressed =>
      obtain ⟨n, here, labelled⟩ := Option.bind_eq_some_iff.1 reply
      obtain ⟨b, pressed, rfl⟩ := Option.map_eq_some_iff.1 labelled
      exact ⟨self here, mem_buttons_of_replyButton? pressed⟩
  | none =>
      cases meant : flow.synonymNode? (Text.trim text) with
      | some target =>
          obtain ⟨synonym, listed, rfl⟩ := Option.map_eq_some_iff.1 meant
          exact .inr (.inr ⟨synonym, List.mem_of_find?_eq_some listed, rfl⟩)
      | none =>
          cases waiting : s.pending with
          | some p => exact answering_justified _ waiting
          | none =>
              cases ending : (s.current.bind flow.node?).filter
                  fun n => Turn.endsSelection n (Text.trim text) with
              | some n => exact finishing_justified (self (Option.filter_eq_some_iff.1 ending).1)
              | none =>
                  dsimp only
                  cases remark : flow.fallbackText with
                  | some text => exact remark
                  | none => trivial

/-- Every move that a session makes of a trigger is justified by the flow and the session. -/
theorem move_justified (flow : Flow) (s : Session) (trigger : Trigger) :
    (s.move flow trigger).Justified flow s trigger := by
  cases trigger with
  | start => exact .inl ⟨rfl, rfl⟩
  | enter node => exact .inr (.inl rfl)
  | act action => exact acting_justified action
  | say text => exact saying_justified text

end Session

end Dialogue
