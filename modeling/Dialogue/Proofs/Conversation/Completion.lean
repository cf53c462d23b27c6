/-
# Selections that can be ended

A selection asks for a least number of values. A flow is checked for asking no more than there are
options, but what is counted when the selection is ended are the selected values, and a value is
selected once, whichever of its options is tapped. So options that share a value count as one.

This module says which selections can be ended at all. A user who has just come to a selection can
tap on options until the end is accepted exactly if there are enough different values. Where no two
options share a value, the check of the flow makes sure of that.
-/

import Dialogue.Proofs.Conversation.DoublePress
import Dialogue.Proofs.Flow.WellFormed
import Dialogue.Proofs.Screen.Agreement

namespace Dialogue

/-! ## How much can be selected -/

/-- Taps on different values select them all. -/
theorem selectionOf_of_nodup {taps : List String} (distinct : taps.Nodup) :
    selectionOf taps = taps := by
  rw [selectionOf, distinct.dedup, List.filter_eq_self]
  intro value tapped
  simp [List.count_eq_one_of_mem distinct tapped]

theorem length_selectionOf_le {taps values : List String} (offered : taps ⊆ values) :
    (selectionOf taps).length ≤ values.dedup.length := by
  apply (nodup_selectionOf taps).length_le_of_subset
  intro value selected
  rw [selectionOf, List.mem_filter, List.mem_dedup] at selected
  exact List.mem_dedup.2 (offered selected.1)

namespace MultiSelect

variable (m : MultiSelect)

/-- The values of the options, in order. -/
def values : List String := m.options.map Choice.answer

/-- The values of the options with some indices. -/
def valuesAt (indices : List Nat) : List String := indices.filterMap (m.values[·]?)

theorem valuesAt_subset (indices : List Nat) : m.valuesAt indices ⊆ m.values := by
  intro value listed
  obtain ⟨index, _, place⟩ := List.mem_filterMap.1 listed
  exact List.mem_of_getElem? place

theorem valuesAt_cons {index : Nat} {choice : Choice} (offered : m.options[index]? = some choice)
    (rest : List Nat) : m.valuesAt (index :: rest) = choice.answer :: m.valuesAt rest := by
  simp [valuesAt, values, offered]

/-- Some options have all values, each once. -/
theorem exists_valuesAt_eq_dedup :
    ∃ indices, (∀ index ∈ indices, index < m.options.length) ∧
      m.valuesAt indices = m.values.dedup := by
  refine ⟨m.values.dedup.map m.values.idxOf, ?_, ?_⟩
  · intro index listed
    obtain ⟨value, member, rfl⟩ := List.mem_map.1 listed
    have inside := List.idxOf_lt_length_of_mem (List.mem_dedup.1 member)
    rwa [values, List.length_map] at inside
  · rw [valuesAt, List.filterMap_map]
    calc m.values.dedup.filterMap ((m.values[·]?) ∘ m.values.idxOf)
      _ = m.values.dedup.filterMap some := by
          apply List.filterMap_congr
          intro value member
          exact List.getElem?_idxOf (List.mem_dedup.1 member)
      _ = m.values.dedup := List.filterMap_some

end MultiSelect

/-- What the check of a flow makes sure of. -/
theorem MultiSelect.minSelected_le {flow : Flow} (accepted : flow.Accepted) {n : Node}
    (member : n ∈ flow.nodes) {m : MultiSelect} (selects : n.multiSelect = some m) :
    m.minSelected ≤ m.values.length := by
  have faultless : n.fault? = none := ((Flow.accepted_iff.1 accepted).2.2.2.1 n member).1
  have proper : n.Proper := Node.proper_iff.2 (n.fault?_verdict.eq_none_iff.1 faultless)
  rw [values, List.length_map]
  exact (proper.multiSelect m selects).enough

/-! ## Coming to a selection -/

namespace Conversation

variable {σ : Type}

/-- A session of a user was saved at a time, and what it has selected at a node comes of some
taps. -/
def Selecting (user : UserId) (node : NodeId) (saved : Time) (taps : List String)
    (c : Conversation σ) : Prop :=
  ∃ session, c.sessions.entries.get? user = some (session, saved) ∧
    session.selected node = selectionOf taps

variable [ProfileStore σ] {flow : Flow} {n : Node} {m : MultiSelect} {c : Conversation σ}
  {user : User} {saved now : Time} {taps : List String}

omit [ProfileStore σ] in
/-- An event that does not come too late finds what the taps have selected. -/
theorem Selecting.selectedAt {node : NodeId} (selecting : c.Selecting user.id node saved taps)
    (soon : now - saved < c.sessions.lifetime) : c.selectedAt user node now = selectionOf taps := by
  obtain ⟨session, entry, selected⟩ := selecting
  have lasting : c.sessions.isExpired saved now = false :=
    decide_eq_false (Int.not_le.2 soon)
  rw [Conversation.selectedAt, SessionStore.get_fst, entry, ← selected]
  simp [Option.filter_some, lasting]

/-- A node that an event takes up and shows has room for its keyboard. -/
theorem fits_of_takesUp {e : Event} (accepted : flow.Accepted) (found : flow.node? n.id = some n)
    (entered : c.takesUp flow now e n.id) (shown : (c.handle flow now e).1 ≠ .crashed) :
    n.fits := by
  obtain ⟨id, target, taken⟩ := (Option.any_eq_true _ _).1 entered
  rw [decide_eq_true_iff] at taken
  have resolves : (flow.node? id).isSome := by
    rw [Option.isSome_iff_ne_none]
    intro missing
    rw [maxAutoAdvance, Flow.passage_of_missing missing] at taken
    cases taken
  obtain ⟨chain, isChain⟩ := accepted.exists_chain resolves
  rw [isChain.passage_eq, List.mem_map] at taken
  obtain ⟨n', listed, same⟩ := taken
  have found' : flow.node? n.id = some n' :=
    same ▸ isChain.node?_of_mem (List.mem_of_mem_take listed)
  obtain rfl : n = n' := Option.some.inj (found.symm.trans found')
  have room := mt handle_crashed_iff.2 shown
  rw [turn, Turn.failure_perform_of_chain rfl target isChain,
    Turn.passageFailure_eq_noRoom_iff] at room
  by_contra cramped
  exact room ⟨n, listed, Bool.not_eq_true _ ▸ cramped⟩

/-- A selection begins empty. -/
theorem selecting_of_takesUp {e : Event} (found : flow.node? n.id = some n)
    (selects : n.multiSelect = some m) (entered : c.takesUp flow now e n.id)
    (shown : (c.handle flow now e).1 ≠ .crashed) :
    (c.handle flow now e).2.Selecting e.user.id n.id now [] := by
  have room := mt handle_crashed_iff.2 shown
  refine ⟨(c.turn flow now e).session, ?_, ?_⟩
  · rw [handle_sessions, if_neg room, SessionStore.get?_save, if_pos rfl]
  · exact (Turn.selected_perform e.user found selects _ _ room).trans (if_pos entered)

/-! ## Tapping on options -/

/-- A tap of a user on an option. -/
def tapping (user : User) (node : NodeId) (index : Nat) : Event where
  user := user
  trigger := .act (.toggle node index)

/-- Taps on the options with some indices, one after the other. -/
def tappings (user : User) (node : NodeId) (clock : Nat → Time) : List Nat → List Happening
  | [] => []
  | index :: rest =>
      .event (clock 0) (tapping user node index) ::
        tappings user node (fun step => clock (step + 1)) rest

/-- One more tap counts, if it does not come too late. -/
theorem Selecting.tap {index : Nat} {choice : Choice} (found : flow.node? n.id = some n)
    (selects : n.multiSelect = some m) (fits : n.fits) (offered : m.options[index]? = some choice)
    (selecting : c.Selecting user.id n.id saved taps)
    (soon : now - saved < c.sessions.lifetime) :
    (c.handle flow now (tapping user n.id index)).2.Selecting user.id n.id now
      (taps ++ [choice.answer]) := by
  have before : (c.sessionFor now (tapping user n.id index)).1.selected n.id = selectionOf taps :=
    selecting.selectedAt soon
  obtain ⟨rows, drawn, _⟩ := MultiSelect.exists_marks selects fits
    (Turn.toggled (selectionOf taps) choice.answer)
  have shown : (c.handle flow now (tapping user n.id index)).1 ≠ .crashed := by
    rw [handle_toggle found selects offered rfl, before, drawn]
    simp
  have after := selection_handle_toggle found selects offered rfl shown n.id
  rw [if_pos rfl, before, ← selectionOf_concat, selection] at after
  have entry : (c.handle flow now (tapping user n.id index)).2.sessions.entries.get?
      (tapping user n.id index).user.id =
        some ((c.turn flow now (tapping user n.id index)).session, now) := by
    rw [handle_sessions, if_neg (mt handle_crashed_iff.2 shown), SessionStore.get?_save, if_pos rfl]
  rw [entry] at after
  exact ⟨_, entry, after⟩

/-- All taps count, if none comes too late. -/
theorem Selecting.run (found : flow.node? n.id = some n) (selects : n.multiSelect = some m)
    (fits : n.fits) (indices : List Nat) {clock : Nat → Time}
    (inside : ∀ index ∈ indices, index < m.options.length)
    (soon : ∀ step, clock (step + 1) - clock step < c.sessions.lifetime)
    (selecting : c.Selecting user.id n.id (clock 0) taps) :
    (c.run flow (tappings user n.id (fun step => clock (step + 1)) indices)).Selecting user.id n.id
      (clock indices.length) (taps ++ m.valuesAt indices) := by
  induction indices generalizing c clock taps with
  | nil => simpa [tappings, MultiSelect.valuesAt] using selecting
  | cons index rest ih =>
      obtain ⟨choice, offered⟩ : ∃ choice, m.options[index]? = some choice :=
        ⟨_, List.getElem?_eq_getElem (inside index List.mem_cons_self)⟩
      have tapped := selecting.tap found selects fits offered (soon 0)
      have later : ∀ step, clock (step + 1 + 1) - clock (step + 1) <
          (c.handle flow (clock 1) (tapping user n.id index)).2.sessions.lifetime := by
        intro step
        have kept := c.lifetime_step flow (.event (clock 1) (tapping user n.id index))
        exact kept.symm ▸ soon (step + 1)
      have others := @ih _ _ (fun step => clock (step + 1))
        (fun other listed => inside other (List.mem_cons_of_mem _ listed)) later tapped
      rw [m.valuesAt_cons offered, List.append_cons]
      exact others

/-! ## Ending a selection -/

/-- The end of a selection is accepted: what is selected is stored, and no notice comes back. -/
structure Completes (ledger : ProfileStore.Ledger σ) (flow : Flow) (n : Node) (m : MultiSelect)
    (user : User) (now : Time) (c : Conversation σ) : Prop where
  stored : ledger.stored (c.pressDone flow user n.id now).profiles user.id =
    (ledger.stored c.profiles user.id).insert m.variableName
      (.ofTexts (c.selectedAt user n.id now))
  quiet : ∀ replies text, (c.handle flow now (pressing user n.id)).1 = .replies replies →
    .notice text ∉ replies

variable {ledger : ProfileStore.Ledger σ}

theorem handle_pressing_of_few (found : flow.node? n.id = some n) (selects : n.multiSelect = some m)
    (few : (c.selectedAt user n.id now).length < m.minSelected) :
    (c.handle flow now (pressing user n.id)).1 =
      .replies [.notice (Turn.tooFewNotice m.minSelected)] := by
  rw [handle_outcome, turn, moveOf_pressing found selects, if_pos few]
  rfl

/-- The end of a selection is followed by nothing but screens. -/
theorem replies_turn_of_finish {e : Event} (ends : c.moveOf flow now e = .finish n m) :
    ∀ r ∈ (c.turn flow now e).replies, ∃ screen, r = .screen screen := by
  rw [turn, ends]
  unfold Turn.perform Turn.enter?
  have silent : ∀ r ∈ ((c.opened now e).prepare flow e.user (.finish n m)).replies,
      ∃ screen, r = .screen screen := by
    intro r listed
    cases listed
  dsimp only [Move.target?]
  cases n.next with
  | none => exact silent
  | some id =>
      exact Turn.replies_enterFrom (P := fun r => ∃ screen, r = .screen screen)
        (fun _ _ _ screen _ _ => ⟨screen, rfl⟩) maxAutoAdvance id _ silent

/-- The end is accepted exactly if enough is selected. -/
theorem completes_iff (takes : ledger.Takes) (found : flow.node? n.id = some n)
    (selects : n.multiSelect = some m) (sound : ledger.Sound c.profiles) :
    c.Completes ledger flow n m user now ↔
      m.minSelected ≤ (c.selectedAt user n.id now).length := by
  constructor
  · intro completes
    rw [← Nat.not_lt]
    intro few
    exact completes.quiet _ _ (handle_pressing_of_few found selects few) List.mem_cons_self
  · intro enough
    constructor
    · rw [stored_pressDone takes found selects user now sound, if_neg (Nat.not_lt.2 enough)]
    · intro replies text answer listed
      have ends : c.moveOf flow now (pressing user n.id) = .finish n m := by
        rw [moveOf_pressing found selects, if_neg (Nat.not_lt.2 enough)]
      rw [handle_outcome, outcomeOf] at answer
      split at answer
      · cases answer
        obtain ⟨screen, shown⟩ := replies_turn_of_finish ends _ listed
        cases shown
      · cases answer
      · cases answer

/-- A user can tap on options of a selection so that its end is accepted then. The taps and the end
come at the moments of a clock, which has already struck once. -/
def Completable (ledger : ProfileStore.Ledger σ) (flow : Flow) (n : Node) (m : MultiSelect)
    (user : User) (clock : Nat → Time) (c : Conversation σ) : Prop :=
  ∃ indices : List Nat, (∀ index ∈ indices, index < m.options.length) ∧
    (c.run flow (tappings user n.id (fun step => clock (step + 1)) indices)).Completes ledger flow n
      m user (clock (indices.length + 1))

/-- A selection that has begun can be ended exactly if there are enough different values. -/
theorem Selecting.completable_iff {clock : Nat → Time} (takes : ledger.Takes)
    (found : flow.node? n.id = some n) (selects : n.multiSelect = some m) (fits : n.fits)
    (sound : ledger.Sound c.profiles)
    (soon : ∀ step, clock (step + 1) - clock step < c.sessions.lifetime)
    (selecting : c.Selecting user.id n.id (clock 0) []) :
    c.Completable ledger flow n m user clock ↔ m.minSelected ≤ m.values.dedup.length := by
  have ends (indices : List Nat) (inside : ∀ index ∈ indices, index < m.options.length) :
      (c.run flow (tappings user n.id (fun step => clock (step + 1)) indices)).Completes ledger flow
        n m user (clock (indices.length + 1)) ↔
          m.minSelected ≤ (selectionOf (m.valuesAt indices)).length := by
    have tapped := selecting.run found selects fits indices inside soon
    rw [completes_iff takes found selects (sound_run _ sound), tapped.selectedAt, List.nil_append]
    rw [lifetime_run]
    exact soon indices.length
  constructor
  · rintro ⟨indices, inside, completes⟩
    calc m.minSelected
      _ ≤ (selectionOf (m.valuesAt indices)).length := (ends indices inside).1 completes
      _ ≤ m.values.dedup.length := length_selectionOf_le (m.valuesAt_subset indices)
  · intro enough
    obtain ⟨indices, inside, all⟩ := m.exists_valuesAt_eq_dedup
    refine ⟨indices, inside, (ends indices inside).2 ?_⟩
    rwa [all, selectionOf_of_nodup (List.nodup_dedup _)]

/-- **Selections can be ended.** Let an event take up a selection of an accepted flow, whatever has
happened before, and let the user go on before the session is over. There are taps on options after
which the end of the selection is accepted exactly if the options have as many different values as
have to be selected. So there are if no two options share a value. The end is accepted if what is
selected is stored then and no notice comes back, and so it is with any store that takes all
answers. -/
theorem selection_completable (ledger : ProfileStore.Ledger σ) (takes : ledger.Takes)
    (accepted : flow.Accepted) (member : n ∈ flow.nodes) (selects : n.multiSelect = some m)
    (sound : ledger.Sound c.profiles) {e : Event} {clock : Nat → Time}
    (entered : c.takesUp flow (clock 0) e n.id) (shown : (c.handle flow (clock 0) e).1 ≠ .crashed)
    (soon : ∀ step, clock (step + 1) - clock step < c.sessions.lifetime) :
    ((c.handle flow (clock 0) e).2.Completable ledger flow n m e.user clock ↔
        m.minSelected ≤ m.values.dedup.length) ∧
      (m.values.Nodup →
        (c.handle flow (clock 0) e).2.Completable ledger flow n m e.user clock) := by
  have found : flow.node? n.id = some n := accepted.distinct.node?_of_mem member
  have fits := fits_of_takesUp accepted found entered shown
  have selecting := selecting_of_takesUp found selects entered shown
  have sound' : ledger.Sound (c.handle flow (clock 0) e).2.profiles :=
    sound_step (.event (clock 0) e) sound
  have lasting : (c.handle flow (clock 0) e).2.sessions.lifetime = c.sessions.lifetime :=
    c.lifetime_step flow (.event (clock 0) e)
  have iff := selecting.completable_iff takes found selects fits sound' (by rwa [lasting])
  refine ⟨iff, fun distinct => iff.2 ?_⟩
  rw [distinct.dedup]
  exact MultiSelect.minSelected_le accepted member selects

/-- A clock that strikes every millisecond. -/
def ticks (step : Nat) : Time := step

theorem ticks_soon {lifetime : Int} (lasting : 1 < lifetime) (step : Nat) :
    ticks (step + 1) - ticks step < lifetime := by
  show ((step + 1 : Nat) : Int) - (step : Int) < lifetime
  omega

/-- A guest comes. -/
def arrival : Event where
  user := { id := 7 }
  trigger := .start

/-- Of three options two share a value, and one has to be selected. -/
theorem teahouse_completable :
    teahouse.Accepted ∧ (begin 100 ({} : MemoryStore)).takesUp teahouse 0 arrival "counter" ∧
      ((begin 100 ({} : MemoryStore)).handle teahouse 0 arrival).2.Completable MemoryStore.ledger
        teahouse counter blends { id := 7 } ticks := by
  have accepted : teahouse.Accepted := by decide +kernel
  have entered : (begin 100 ({} : MemoryStore)).takesUp teahouse (ticks 0) arrival "counter" := by
    decide +kernel
  have shown : ((begin 100 ({} : MemoryStore)).handle teahouse (ticks 0) arrival).1 ≠ .crashed := by
    decide +kernel
  have completable := selection_completable MemoryStore.ledger MemoryStore.ledger_takes accepted
    (n := counter) (m := blends) (by decide +kernel) rfl trivial entered shown
    (ticks_soon (by decide))
  exact ⟨accepted, entered, completable.1.2 (by decide)⟩

/-- Two options with one value. Two have to be selected. -/
def brews : MultiSelect where
  variableName := "teas"
  options := [{ text := "black tea", value := some "tea" },
    { text := "green tea", value := some "tea" }]
  minSelected := 2

/-- The node of these options. -/
def pot : Node where
  id := "pot"
  text := "Which two?"
  multiSelect := some brews
  next := some "bill"

/-- A flow with these options and an end that nobody reaches. -/
def tearoom : Flow where
  name := "tearoom"
  start := "pot"
  nodes := [pot, { id := "bill", text := "Thank you!" }]

/-- The flow is accepted, and the guest can tap on whatever there is without ever being let go. -/
theorem tearoom_not_completable :
    tearoom.Accepted ∧ (begin 100 ({} : MemoryStore)).takesUp tearoom 0 arrival "pot" ∧
      ¬ ((begin 100 ({} : MemoryStore)).handle tearoom 0 arrival).2.Completable MemoryStore.ledger
        tearoom pot brews { id := 7 } ticks := by
  have found : tearoom.node? pot.id = some pot := by decide +kernel
  have entered : (begin 100 ({} : MemoryStore)).takesUp tearoom (ticks 0) arrival pot.id := by
    decide +kernel
  have shown : ((begin 100 ({} : MemoryStore)).handle tearoom (ticks 0) arrival).1 ≠ .crashed := by
    decide +kernel
  have selecting := selecting_of_takesUp found rfl entered shown
  refine ⟨by decide +kernel, entered, ?_⟩
  intro completable
  have enough := (selecting.completable_iff MemoryStore.ledger_takes found rfl (by decide +kernel)
    trivial (ticks_soon (by decide))).1 completable
  exact absurd enough (by decide)

end Conversation

end Dialogue
