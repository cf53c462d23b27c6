/-
# Buttons that something takes up

Three parts of a conversation have to fit together before a button works: the flow that was
accepted, the action that the button was drawn with, and the reader that makes an action of the text
that comes back. This module says how far they do. Every action on every keyboard of every reply
belongs to a node of the flow, and its index is the index of a button or an option there, so that it
is never ignored.

Its text is read as the action again, with one exception. The reader takes no action whose node has
an empty name, but nothing forbids such a name in a flow, and then the buttons of that node are
dead.
-/

import Dialogue.Proofs.Bot.Presses
import Dialogue.Proofs.Screen.Agreement

namespace Dialogue

/-! ## Actions that are not ignored -/

/-- The node of an action exists, and it has a button or an option of that index. -/
def Flow.Heeds (flow : Flow) : Action → Prop
  | .button node index => ∃ n, flow.node? node = some n ∧ index < n.buttons.length
  | .toggle node index =>
      ∃ n m, flow.node? node = some n ∧ n.multiSelect = some m ∧ index < m.options.length
  | .done node => ∃ n m, flow.node? node = some n ∧ n.multiSelect = some m

namespace Session

variable {flow : Flow}

theorem finishing_ne_idle {n : Node} {m : MultiSelect} (s : Session)
    (selects : n.multiSelect = some m) : s.finishing n ≠ .idle := by
  rw [finishing, selects]
  dsimp only
  split
  · simp
  · simp

/-- What is heeded is not ignored, whatever the session. -/
theorem acting_ne_idle {action : Action} (s : Session) (heeded : flow.Heeds action) :
    s.acting flow action ≠ .idle := by
  rw [acting]
  cases action with
  | button node index =>
      obtain ⟨n, found, inRange⟩ := heeded
      simp [Action.node, found, List.getElem?_eq_getElem inRange]
  | toggle node index =>
      obtain ⟨n, m, found, selects, inRange⟩ := heeded
      simp [Action.node, found, selects, List.getElem?_eq_getElem inRange]
  | done node =>
      obtain ⟨n, m, found, selects⟩ := heeded
      simpa [Action.node, found] using s.finishing_ne_idle selects

end Session

namespace Flow

variable {flow : Flow} {rows : InlineRows} {action : Action}

theorem heeds_of_mem_actions {n : Node} {m : MultiSelect} (found : flow.node? n.id = some n)
    (selects : n.multiSelect = some m) (listed : action ∈ m.actions n.id) : flow.Heeds action := by
  rw [MultiSelect.actions, List.mem_append, List.mem_singleton] at listed
  rcases listed with option | rfl
  · obtain ⟨index, inRange, rfl⟩ := List.mem_mapIdx.1 option
    exact ⟨n, m, found, selects, inRange⟩
  · exact ⟨n, m, found, selects⟩

/-- Every action of a keyboard that is drawn for a node is heeded. -/
theorem Draws.heeds (drawn : flow.Draws rows) (listed : action ∈ rows.actions) :
    flow.Heeds action := by
  cases drawn with
  | selection found selects drawn =>
      rw [InlineRows.actions_of_selectRows? drawn] at listed
      exact heeds_of_mem_actions found selects listed
  | @buttons n k vars _ found shows drawn =>
      rw [InlineRows.actions_eq_map, List.mem_map] at listed
      obtain ⟨⟨label, action⟩, listed, rfl⟩ := listed
      obtain ⟨index, b, place, _, _, rfl⟩ := Screen.exists_button_of_callback drawn listed
      rw [← Node.buttons_of_keyboard shows] at place
      exact ⟨n, found, (List.getElem?_eq_some_iff.1 place).1⟩

/-- An action that is heeded can be stated if its node has a name: indices are no larger than memory
allows. -/
theorem Heeds.statable_iff (heeded : flow.Heeds action) (addressable : flow.Addressable) :
    action.Statable ↔ action.node ≠ "" := by
  have bounded {index length : Nat} (inRange : index < length)
      (short : length ≤ Rows.addressable) : index < Number.unsigned64 := by
    have room : Rows.addressable < Number.unsigned64 := by decide
    omega
  cases action with
  | button node index =>
      obtain ⟨n, found, inRange⟩ := heeded
      simp [Action.Statable, Action.node,
        bounded inRange (addressable.buttons n (mem_of_node? found))]
  | toggle node index =>
      obtain ⟨n, m, found, selects, inRange⟩ := heeded
      simp [Action.Statable, Action.node,
        bounded inRange (addressable.options n (mem_of_node? found) m selects)]
  | done node => simp [Action.Statable, Action.node]

end Flow

/-! ## The keyboards of replies -/

namespace Conversation

variable {σ : Type} [ProfileStore σ] {flow : Flow}

/-- Every keyboard that an event is answered with is drawn for a node of the flow. -/
theorem draws_of_handle {rows : InlineRows} (c : Conversation σ) (now : Time) (e : Event)
    (shown : rows ∈ (c.handle flow now e).1.keyboards) : flow.Draws rows := by
  have said : rows ∈ (c.turn flow now e).replies.flatMap Reply.rows := by
    rw [handle_outcome, outcomeOf] at shown
    split at shown
    · exact shown
    · cases shown
    · cases shown
  obtain ⟨reply, listed, shown⟩ := List.mem_flatMap.1 said
  rcases replies_turn flow now e c with
    plain | ⟨n, m, index, selected, drawn, asks, found, selects, laid, only⟩
  · have plain := plain reply listed
    cases reply with
    | screen s =>
        apply plain
        cases keyboard : s.keyboard with
        | inline drawn =>
            simp only [Reply.rows, keyboard, ScreenKeyboard.rows, List.mem_singleton] at shown
            rw [shown]
        | _ => simp [Reply.rows, keyboard, ScreenKeyboard.rows] at shown
    | notice text => cases shown
    | keyboard node drawn => cases plain
  · rw [only, List.mem_singleton] at listed
    subst listed
    rw [List.mem_singleton.1 shown]
    exact .selection found selects laid

/-- **No button is dead unless its node has no name.** Whatever has happened before an event and
whatever it is, each action on each keyboard that it is answered with belongs to a node of the flow
and to a button or an option there. So it is not ignored, in whatever state it finds the
conversation. Its text is read as the action again exactly if the name of its node is not empty.

The flow need not be accepted for this, and acceptance does not exclude the exception. -/
theorem live_of_handle {flow : Flow} (addressable : flow.Addressable) (c : Conversation σ)
    (now : Time) (e : Event) :
    ∀ rows ∈ (c.handle flow now e).1.keyboards, ∀ action ∈ rows.actions,
      flow.Heeds action ∧
        (∀ (later : Conversation σ) (time : Time) (user : User),
          later.moveOf flow time { user, trigger := .act action } ≠ .idle) ∧
        (Action.parse? action.text = some action ↔ action.node ≠ "") := by
  intro rows shown action listed
  have heeded := (draws_of_handle c now e shown).heeds listed
  refine ⟨heeded, ?_, ?_⟩
  · intro later time user
    exact Session.acting_ne_idle _ heeded
  · rw [← heeded.statable_iff addressable, Action.parse?_text, Option.ite_none_right_eq_some]
    simp

/-- A flow of two nodes, of which the first one has a button. -/
def ferry (pier : NodeId) : Flow where
  name := "ferry"
  start := pier
  nodes := [
    { id := pier, text := "All aboard?", keyboard := some { buttons := [
      { text := "map", url := some "https://example.com" },
      { text := "aboard", goto := some "deck" }] } },
    { id := "deck", text := "Farewell!" }]

/-- A passenger arrives. -/
def boarding : Event where
  user := { id := 7 }
  trigger := .start

/-- A colon in the name of a node does no harm. -/
theorem ferry_live :
    (ferry "pier:2").Accepted ∧ (ferry "pier:2").Addressable ∧
      ((begin 100 ({} : MemoryStore)).handle (ferry "pier:2") 0 boarding).1.keyboards.flatMap
        InlineRows.actions = [.button "pier:2" 1] ∧
      (ferry "pier:2").Heeds (.button "pier:2" 1) ∧
      Action.parse? (Action.button "pier:2" 1).text = some (.button "pier:2" 1) := by
  have accepted : (ferry "pier:2").Accepted := by decide +kernel
  have addressable : (ferry "pier:2").Addressable := ⟨by decide +kernel, by simp [ferry]⟩
  have shown : ((begin 100 ({} : MemoryStore)).handle (ferry "pier:2") 0
      boarding).1.keyboards.flatMap InlineRows.actions = [.button "pier:2" 1] := by
    decide +kernel
  have button := List.mem_singleton_self (Action.button "pier:2" 1)
  rw [← shown] at button
  obtain ⟨rows, drawn, listed⟩ := List.mem_flatMap.1 button
  obtain ⟨heeded, _, read⟩ := live_of_handle addressable _ 0 boarding rows drawn _ listed
  exact ⟨accepted, addressable, shown, heeded, read.2 (by decide)⟩

/-- The flow is accepted with an empty name too. The button is shown, but what comes back from it is
not an action. -/
theorem ferry_dead_of_unnamed :
    (ferry "").Accepted ∧
      ((begin 100 ({} : MemoryStore)).handle (ferry "") 0 boarding).1.keyboards.flatMap
        InlineRows.actions = [.button "" 1] ∧
      Action.parse? (Action.button "" 1).text = none := by
  decide +kernel

end Conversation

end Dialogue
