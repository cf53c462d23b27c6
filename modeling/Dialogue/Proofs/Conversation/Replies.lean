/-
# What an event is answered with

The replies of one event are of one of two kinds. Either they are screens and notices, and each
inline keyboard among them is drawn for a node of the flow; or there is a single reply, which
changes the keyboard of a selection in place. The second kind comes only of a toggle of that very
selection.
-/

import Dialogue.Proofs.Conversation.Run
import Dialogue.Proofs.Screen.Drawing

namespace Dialogue

/-- A reply that is a message of its own, with a keyboard of the flow if it has an inline one. -/
def Reply.Plain (flow : Flow) : Reply → Prop
  | .screen s => ∀ rows, s.keyboard = .inline rows → flow.Draws rows
  | .notice _ => True
  | .keyboard _ _ => False

namespace Session

variable {flow : Flow} {s : Session}

theorem finishing_ne_toggle (n : Node) {node : Node} {m : MultiSelect} {c : Choice} :
    s.finishing n ≠ .toggle node m c := by
  rw [finishing]
  split
  · exact Move.noConfusion
  · split
    · exact Move.noConfusion
    · exact Move.noConfusion

theorem answering_ne_toggle (p : Pending) (text : String) {node : Node} {m : MultiSelect}
    {c : Choice} : answering p text ≠ .toggle node m c := by
  rw [answering]
  split
  · exact Move.noConfusion
  · exact Move.noConfusion

/-- No text toggles an option. -/
theorem saying_ne_toggle (text : String) {node : Node} {m : MultiSelect} {c : Choice} :
    s.saying flow text ≠ .toggle node m c := by
  unfold saying
  dsimp only
  split
  · exact Move.noConfusion
  · split
    · exact Move.noConfusion
    · split
      · exact answering_ne_toggle _ _
      · split
        · exact finishing_ne_toggle _
        · split
          · exact Move.noConfusion
          · exact Move.noConfusion

/-- An option is toggled only by a press that asks for it. -/
theorem trigger_of_toggle {trigger : Trigger} {n : Node} {m : MultiSelect} {c : Choice}
    (moves : s.move flow trigger = .toggle n m c) :
    ∃ index, trigger = .act (.toggle n.id index) := by
  cases trigger with
  | start => cases moves
  | enter node => cases moves
  | say text => exact absurd moves (saying_ne_toggle text)
  | act action =>
      change s.acting flow action = .toggle n m c at moves
      rw [acting] at moves
      cases found : flow.node? action.node with
      | none =>
          rw [found] at moves
          cases moves
      | some n' =>
          rw [found] at moves
          dsimp only at moves
          split at moves
          · split at moves
            · cases moves
            · cases moves
          · next id index =>
              have own : n'.id = id := Flow.id_of_node? found
              split at moves
              · cases moves
              · split at moves
                · cases moves
                · cases moves
                  rw [own]
                  exact ⟨index, rfl⟩
          · exact absurd moves (finishing_ne_toggle n')

end Session

namespace Turn

variable {σ : Type} [ProfileStore σ] {P : Reply → Prop} {flow : Flow} {user : User}

/-- A passage adds screens of nodes of the flow. -/
theorem replies_enterFrom {first : NodeId}
    (shows : ∀ n vars selected screen, flow.node? n.id = some n →
      Screen.ofNode? n vars selected = some screen → P (.screen screen))
    (steps : Nat) (id : NodeId) (t : Turn σ) (holds : ∀ r ∈ t.replies, P r) :
    ∀ r ∈ (enterFrom flow user first steps id t).replies, P r := by
  induction steps generalizing id t with
  | zero => exact holds
  | succ steps ih =>
      cases found : flow.node? id with
      | none =>
          rw [enterFrom_of_missing first steps t found]
          exact holds
      | some n =>
          rw [enterFrom_of_found user first steps t found]
          cases shown : t.screen? flow user n with
          | none => exact holds
          | some screen =>
              have added : ∀ r ∈ ((t.takenUp user n).reply (.screen screen)).replies, P r := by
                intro r listed
                rcases List.mem_append.1 listed with old | new
                · exact holds r old
                · rw [List.mem_singleton.1 new]
                  exact shows n _ _ screen (Flow.node?_id_of_node? found) shown
              dsimp only
              cases n.autoNext with
              | none => exact added
              | some next => exact ih next _ added

/-- Before a node is entered, a move that toggles nothing says at most one thing in plain text. -/
theorem replies_prepare {move : Move} (t : Turn σ) (silent : t.replies = [])
    (other : ∀ n m c, move ≠ .toggle n m c) :
    ∀ r ∈ (t.prepare flow user move).replies, ∃ text, r = .notice text := by
  have spoken (text : String) :
      ∀ r ∈ t.replies ++ [Reply.notice text], ∃ text, r = .notice text := by
    intro r listed
    rw [silent, List.nil_append, List.mem_singleton] at listed
    exact ⟨text, listed⟩
  have quiet : ∀ r ∈ t.replies, ∃ text, r = .notice text := by
    intro r listed
    rw [silent] at listed
    cases listed
  cases move with
  | toggle n m c => exact absurd rfl (other n m c)
  | insist n m => exact spoken _
  | reject p rejection => exact spoken _
  | remark text => exact spoken _
  | idle => exact quiet
  | enter target => exact quiet
  | press n b =>
      unfold prepare utter keep
      dsimp only
      split
      · exact quiet
      · exact quiet
  | finish n m => exact quiet
  | accept p answer => exact quiet

/-- Unless it toggles an option, a move is answered with messages of their own. -/
theorem plain_perform {move : Move} (t : Turn σ) (silent : t.replies = [])
    (other : ∀ n m c, move ≠ .toggle n m c) :
    ∀ r ∈ (t.perform flow user move).replies, r.Plain flow := by
  have prepared : ∀ r ∈ (t.prepare flow user move).replies, r.Plain flow := by
    intro r listed
    obtain ⟨text, rfl⟩ := replies_prepare t silent other r listed
    trivial
  unfold perform enter?
  cases move.target? with
  | none => exact prepared
  | some id =>
      apply replies_enterFrom _ maxAutoAdvance id _ prepared
      intro n vars selected screen found shown rows inline
      exact Flow.draws_of_ofNode? found shown inline

/-- A toggle is answered with the keyboard of its selection, if that can be laid out. -/
theorem replies_perform_toggle (flow : Flow) (user : User) (n : Node) (m : MultiSelect)
    (c : Choice) (t : Turn σ) (silent : t.replies = []) :
    (t.perform flow user (.toggle n m c)).replies = [] ∨
      ∃ selected rows, Screen.selectRows? n.id m selected = some rows ∧
        (t.perform flow user (.toggle n m c)).replies = [.keyboard n.id rows] := by
  have stays : t.perform flow user (.toggle n m c) = t.prepare flow user (.toggle n m c) := rfl
  rw [stays]
  unfold prepare utter
  dsimp only
  split
  · exact .inl silent
  · next rows drawn =>
      refine .inr ⟨_, rows, drawn, ?_⟩
      show t.replies ++ [_] = _
      rw [silent, List.nil_append]

end Turn

namespace Conversation

variable {σ : Type} [ProfileStore σ]

/-- The replies of an event are messages of their own, or the event toggled an option and the reply
is the keyboard of that selection. -/
theorem replies_turn (flow : Flow) (now : Time) (e : Event) (c : Conversation σ) :
    (∀ r ∈ (c.turn flow now e).replies, r.Plain flow) ∨
      ∃ n m index selected rows, e.trigger = .act (.toggle n.id index) ∧
        flow.node? n.id = some n ∧ n.multiSelect = some m ∧
        Screen.selectRows? n.id m selected = some rows ∧
        (c.turn flow now e).replies = [.keyboard n.id rows] := by
  rw [turn]
  cases moves : c.moveOf flow now e with
  | toggle n m choice =>
      have justified := Session.move_justified flow (c.sessionFor now e).1 e.trigger
      change (c.moveOf flow now e).Justified flow _ _ at justified
      rw [moves] at justified
      obtain ⟨found, selects, _⟩ := justified
      obtain ⟨index, asks⟩ := Session.trigger_of_toggle moves
      rcases Turn.replies_perform_toggle flow e.user n m choice (c.opened now e) rfl
        with none | ⟨selected, rows, drawn, answer⟩
      · left
        rw [none]
        intro r listed
        cases listed
      · exact .inr ⟨n, m, index, selected, rows, asks, found, selects, drawn, answer⟩
  | _ =>
      left
      apply Turn.plain_perform _ rfl
      intro n m choice
      exact Move.noConfusion

end Conversation

end Dialogue
