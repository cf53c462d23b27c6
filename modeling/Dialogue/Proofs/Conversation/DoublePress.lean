/-
# Ending a selection twice

A user may press the button that ends a selection twice, the second time before the first has been
answered. Events of one user are handled one after the other, so the second press finds what the
first has left, and that is no selection at all. A missing selection counts as an empty one. Where
nothing has to be selected, an empty selection is as good as any other, and so the second press
stores it in the place of what the first has stored.

This module says exactly when that happens. A selection that has to have at least one value is safe,
since then the second press is refused.
-/

import Dialogue.Proofs.Conversation.Integrity
import Dialogue.Proofs.Conversation.Selection

namespace Dialogue

theorem Value.ofTexts_injective {first second : List String}
    (same : ofTexts first = ofTexts second) : first = second :=
  List.map_injective_iff.2 (fun _ _ => Value.text.inj) (Value.list.inj same)

/-! ## Stores that take every answer -/

/-- The store refuses no answer. -/
def ProfileStore.Ledger.Takes {σ : Type} [ProfileStore σ] (ledger : ProfileStore.Ledger σ) :
    Prop :=
  ∀ (s : σ) (user : UserId) (key : String) (value : Value), ledger.Sound s →
    ledger.stored (ProfileStore.write s user key value).2 user =
      (ledger.stored s user).insert key value

theorem MemoryStore.ledger_takes : MemoryStore.ledger.Takes := by
  intro m user key value _
  exact (m.answers_setValue user user key value).trans (if_pos rfl)

/-- What the durable part refuses is in memory all the same. -/
theorem FallbackStore.ledger_takes : FallbackStore.ledger.Takes := by
  rintro f user key value ⟨m, mirrors⟩
  have after : (f.write user key value).Mirrors (m.setValue user key value) :=
    mirrors_simulation.write user key value mirrors
  show (f.write user key value).memory.answers user = (f.memory.answers user).insert key value
  rw [after.memory_answers, mirrors.memory_answers, m.answers_setValue, if_pos rfl]

namespace Conversation

variable {σ : Type} [ProfileStore σ] {ledger : ProfileStore.Ledger σ} {flow : Flow}
  {c : Conversation σ}

/-- The answers of a user with one more, if there is one more. -/
def answered (profile : Profile) (answer : Option (String × Value)) : Profile :=
  answer.elim profile fun (key, value) => profile.insert key value

/-- An event leaves its user with the answer that it stores. -/
theorem stored_handle (takes : ledger.Takes) (now : Time) (e : Event)
    (sound : ledger.Sound c.profiles) :
    ledger.stored (c.handle flow now e).2.profiles e.user.id =
      answered (ledger.stored c.profiles e.user.id) (c.answerOf? flow now e) := by
  obtain ⟨recorded, same⟩ := ledger.record e.user sound
  rw [handle_profiles]
  refine (Turn.profiles_perform (P := fun s => ledger.Sound s ∧ ledger.stored s e.user.id =
    answered (ledger.stored c.profiles e.user.id) (c.answerOf? flow now e)) ?_ _ ?_).2
  · rintro s ⟨sound', stored⟩
    obtain ⟨read, unchanged⟩ := ledger.read e.user.id sound'
    rw [unchanged]
    exact ⟨read, stored⟩
  · show ledger.Sound ((c.opened now e).keep e.user.id (c.answerOf? flow now e)).profiles ∧
      ledger.stored ((c.opened now e).keep e.user.id (c.answerOf? flow now e)).profiles
        e.user.id = _
    cases c.answerOf? flow now e with
    | none => exact ⟨recorded, congrFun same e.user.id⟩
    | some answer =>
        refine ⟨(ledger.write e.user.id answer.1 answer.2 recorded).1, ?_⟩
        rw [answered, Option.elim_some, ← same]
        exact takes _ e.user.id answer.1 answer.2 recorded

theorem sound_step (happening : Happening) (sound : ledger.Sound c.profiles) :
    ledger.Sound (c.step flow happening).2.profiles := by
  cases happening with
  | event now e => exact (changes_handle ledger flow now e sound).sound
  | purge now => exact sound
  | reset user => exact sound
  | inspect user => exact (ledger.read user sound).1

theorem sound_run (happenings : List Happening) (sound : ledger.Sound c.profiles) :
    ledger.Sound (c.run flow happenings).profiles :=
  run_induction (P := fun c => ledger.Sound c.profiles)
    (fun _ happening sound => sound_step happening sound) happenings _ sound

/-! ## One press -/

/-- A user presses the button that ends the selection of a node. -/
def pressing (user : User) (node : NodeId) : Event := { user, trigger := .act (.done node) }

/-- The conversation after such a press. -/
def pressDone (flow : Flow) (user : User) (node : NodeId) (now : Time) (c : Conversation σ) :
    Conversation σ :=
  (c.handle flow now (pressing user node)).2

omit [ProfileStore σ] in
/-- What an event of the user finds selected at a node. -/
def selectedAt (user : User) (node : NodeId) (now : Time) (c : Conversation σ) : List String :=
  (c.sessions.get user.id now).1.selected node

variable {n : Node} {m : MultiSelect} {user : User}

omit [ProfileStore σ] in
theorem moveOf_pressing (found : flow.node? n.id = some n) (selects : n.multiSelect = some m)
    (now : Time) :
    c.moveOf flow now (pressing user n.id) =
      if (c.selectedAt user n.id now).length < m.minSelected then .insist n m else .finish n m :=
  Session.move_of_done _ found selects

/-- A press stores what it finds selected, if that is enough. -/
theorem stored_pressDone (takes : ledger.Takes) (found : flow.node? n.id = some n)
    (selects : n.multiSelect = some m) (user : User) (now : Time)
    (sound : ledger.Sound c.profiles) :
    ledger.stored (c.pressDone flow user n.id now).profiles user.id =
      if (c.selectedAt user n.id now).length < m.minSelected then ledger.stored c.profiles user.id
      else (ledger.stored c.profiles user.id).insert m.variableName
        (.ofTexts (c.selectedAt user n.id now)) := by
  refine (stored_handle takes now (pressing user n.id) sound).trans ?_
  rw [answerOf?, moveOf_pressing found selects]
  split
  · rfl
  · rfl

/-! ## The press after it -/

/-- A press that could be shown leaves the selection alone if it is too small, and nothing
otherwise. -/
theorem selected_turn_pressing (found : flow.node? n.id = some n) (selects : n.multiSelect = some m)
    (now : Time) (shown : (c.turn flow now (pressing user n.id)).failure ≠ some .noRoom) :
    (c.turn flow now (pressing user n.id)).session.selected n.id =
      if (c.selectedAt user n.id now).length < m.minSelected then c.selectedAt user n.id now
      else [] := by
  refine (Turn.selected_perform user found selects _ _ shown).trans ?_
  rw [moveOf_pressing found selects]
  by_cases few : (c.selectedAt user n.id now).length < m.minSelected
  · rw [if_pos few, if_pos few]
    exact Session.selected_select_self _ _ _
  · rw [if_neg few, if_neg few]
    split
    · rfl
    · exact (Session.selected_forget _ _ _).trans (if_pos rfl)

theorem pressDone_of_crashed {now : Time}
    (crashed : (c.handle flow now (pressing user n.id)).1 = .crashed) :
    (c.pressDone flow user n.id now).sessions = (c.sessions.get user.id now).2 :=
  (handle_sessions flow now _ c).trans (if_pos (handle_crashed_iff.1 crashed))

theorem pressDone_of_handled {now : Time}
    (handled : (c.handle flow now (pressing user n.id)).1 ≠ .crashed) :
    (c.pressDone flow user n.id now).sessions =
      (c.sessions.get user.id now).2.save user.id (c.turn flow now (pressing user n.id)).session
        now :=
  (handle_sessions flow now _ c).trans (if_neg (mt handle_crashed_iff.2 handled))

/-- The next press finds the selection as it was or finds none. -/
theorem selectedAt_pressDone (found : flow.node? n.id = some n) (selects : n.multiSelect = some m)
    (user : User) (now later : Time) (c : Conversation σ) :
    (c.pressDone flow user n.id now).selectedAt user n.id later = [] ∨
      (c.pressDone flow user n.id now).selectedAt user n.id later = c.selectedAt user n.id now := by
  by_cases crashed : (c.handle flow now (pressing user n.id)).1 = .crashed
  · unfold selectedAt
    rw [pressDone_of_crashed crashed]
    rcases c.sessions.get_get_self user.id now later with fresh | same
    · exact .inl (congrArg (·.selected n.id) fresh)
    · exact .inr (congrArg (·.selected n.id) same)
  · have turned := selected_turn_pressing found selects now (mt handle_crashed_iff.2 crashed)
    unfold selectedAt at turned ⊢
    rw [pressDone_of_handled crashed, SessionStore.get_save]
    split
    · exact .inl rfl
    · rw [turned]
      split
      · exact .inr rfl
      · exact .inl rfl

/-- The press after one that has ended the selection finds nothing selected. -/
theorem selectedAt_pressDone_of_enough (found : flow.node? n.id = some n)
    (selects : n.multiSelect = some m) {now : Time} (later : Time)
    (handled : (c.handle flow now (pressing user n.id)).1 ≠ .crashed)
    (enough : m.minSelected ≤ (c.selectedAt user n.id now).length) :
    (c.pressDone flow user n.id now).selectedAt user n.id later = [] := by
  have turned := selected_turn_pressing found selects now (mt handle_crashed_iff.2 handled)
  rw [if_neg (Nat.not_lt.2 enough)] at turned
  unfold selectedAt
  rw [pressDone_of_handled handled, SessionStore.get_save]
  split
  · rfl
  · exact turned

/-- The second press keeps what the first has stored exactly if it is refused or finds the same
selection. -/
theorem stored_pressDone_twice_iff (takes : ledger.Takes) (found : flow.node? n.id = some n)
    (selects : n.multiSelect = some m) (user : User) (now later : Time)
    (sound : ledger.Sound c.profiles) :
    ledger.stored ((c.pressDone flow user n.id now).pressDone flow user n.id later).profiles
        user.id = ledger.stored (c.pressDone flow user n.id now).profiles user.id ↔
      0 < m.minSelected ∨
        (c.pressDone flow user n.id now).selectedAt user n.id later =
          c.selectedAt user n.id now := by
  have sound' : ledger.Sound (c.pressDone flow user n.id now).profiles :=
    sound_step (.event now (pressing user n.id)) sound
  have once := stored_pressDone takes found selects user now sound
  have twice := stored_pressDone takes found selects user later sound'
  rw [twice]
  constructor
  · intro kept
    rcases Nat.eq_zero_or_pos m.minSelected with none | some
    · right
      rw [if_neg (by omega), once, if_neg (by omega)] at kept
      have entry := congrArg (·.get? m.variableName) kept
      simp only [Table.get?_insert_self, Option.some.injEq] at entry
      exact Value.ofTexts_injective entry
    · exact .inl some
  · intro safe
    split
    · rfl
    · next enough =>
        -- What is large enough is not empty, or it is what the first press has found.
        have same : (c.pressDone flow user n.id now).selectedAt user n.id later =
            c.selectedAt user n.id now := by
          rcases safe with least | same
          · rcases selectedAt_pressDone found selects user now later c with empty | same
            · rw [empty, List.length_nil] at enough
              exact absurd least enough
            · exact same
          · exact same
        rw [same] at enough ⊢
        rw [once, if_neg enough]
        exact Table.insert_insert_self _ _ _

/-- What becomes of an answer if the selection is ended twice. -/
structure EndsTwice (ledger : ProfileStore.Ledger σ) (flow : Flow) (n : Node) (m : MultiSelect)
    (user : User) (now later : Time) (c : Conversation σ) : Prop where
  /-- The second press changes nothing exactly if something has to be selected, or if nothing
  was. -/
  kept_iff : (c.handle flow now (pressing user n.id)).1 ≠ .crashed →
    (ledger.stored ((c.pressDone flow user n.id now).pressDone flow user n.id later).profiles
        user.id = ledger.stored (c.pressDone flow user n.id now).profiles user.id ↔
      0 < m.minSelected ∨ c.selectedAt user n.id now = [])
  /-- Where nothing has to be selected, the first press stores the selection and the second puts an
  empty one in its place. -/
  replaced : (c.handle flow now (pressing user n.id)).1 ≠ .crashed → m.minSelected = 0 →
    (ledger.stored (c.pressDone flow user n.id now).profiles user.id).get? m.variableName =
        some (.ofTexts (c.selectedAt user n.id now)) ∧
      ledger.stored ((c.pressDone flow user n.id now).pressDone flow user n.id later).profiles
          user.id =
        (ledger.stored (c.pressDone flow user n.id now).profiles user.id).insert m.variableName
          (.ofTexts [])
  /-- A press that crashes does not end the selection. It is still there for the second press unless
  the session is over by then. -/
  crashed : (c.handle flow now (pressing user n.id)).1 = .crashed →
    (ledger.stored ((c.pressDone flow user n.id now).pressDone flow user n.id later).profiles
        user.id = ledger.stored (c.pressDone flow user n.id now).profiles user.id ↔
      0 < m.minSelected ∨
        (c.pressDone flow user n.id now).selectedAt user n.id later = c.selectedAt user n.id now)

theorem endsTwice (takes : ledger.Takes) (found : flow.node? n.id = some n)
    (selects : n.multiSelect = some m) (user : User) (now later : Time)
    (sound : ledger.Sound c.profiles) : c.EndsTwice ledger flow n m user now later := by
  have iff := stored_pressDone_twice_iff takes found selects user now later sound
  refine ⟨?_, ?_, fun _ => iff⟩
  · intro handled
    rw [iff]
    constructor
    · rintro (least | same)
      · exact .inl least
      · rcases Nat.eq_zero_or_pos m.minSelected with none | some
        · have emptied := selectedAt_pressDone_of_enough found selects later handled (by omega)
          exact .inr (same.symm.trans emptied)
        · exact .inl some
    · rintro (least | empty)
      · exact .inl least
      · rcases selectedAt_pressDone found selects user now later c with nothing | same
        · exact .inr (nothing.trans empty.symm)
        · exact .inr same
  · intro handled none
    have emptied := selectedAt_pressDone_of_enough found selects later handled (by omega)
    have sound' : ledger.Sound (c.pressDone flow user n.id now).profiles :=
      sound_step (.event now (pressing user n.id)) sound
    constructor
    · rw [stored_pressDone takes found selects user now sound, if_neg (by omega),
        Table.get?_insert_self]
    · rw [stored_pressDone takes found selects user later sound', if_neg (by omega), emptied]

/-- **Ending a selection twice.** After any run, let a user press the button that ends a selection
twice. The answers of the user are the same after the second press as after the first if at least
one value has to be selected, and also if none was. Otherwise the second press stores an empty
selection, and what the user had selected is lost. So it is with any store that takes all answers.

The flow need not be accepted for this. -/
theorem endsTwice_of_run (ledger : ProfileStore.Ledger σ) (takes : ledger.Takes) {flow : Flow}
    {n : Node} {m : MultiSelect} (found : flow.node? n.id = some n)
    (selects : n.multiSelect = some m) (lifetime : Int) (profiles : σ)
    (sound : ledger.Sound profiles) (happenings : List Happening) (user : User)
    (now later : Time) :
    ((begin lifetime profiles).run flow happenings).EndsTwice ledger flow n m user now later := by
  apply endsTwice takes found selects
  exact run_induction (P := fun c => ledger.Sound c.profiles)
    (fun _ happening sound => sound_step happening sound) happenings _ sound

/-- The options of the drinks. None of them has to be selected. -/
def selectDrinks : MultiSelect where
  variableName := "drinks"
  options := [{ text := "tea" }, { text := "coffee" }]

/-- The node of the drinks. -/
def drinks : Node where
  id := "drinks"
  text := "What do you like?"
  multiSelect := some selectDrinks
  next := some "ask"

/-- A drink is selected, and the selection has not been ended yet. -/
def undecided : List Happening := order.take 2

theorem undecided_endsTwice :
    cafe.node? drinks.id = some drinks ∧
      ((begin 100 ({} : MemoryStore)).run cafe undecided).EndsTwice MemoryStore.ledger cafe drinks
        selectDrinks { id := 7 } 2 3 ∧
      ((begin 100 shaky).run cafe undecided).EndsTwice FallbackStore.ledger cafe drinks
        selectDrinks { id := 7 } 2 3 ∧
      ((begin 100 shaky).run cafe undecided).selectedAt { id := 7 } "drinks" 2 = ["coffee"] := by
  have found : cafe.node? drinks.id = some drinks := by decide +kernel
  have sound : FallbackStore.ledger.Sound shaky := ⟨{}, FallbackStore.overEmpty_mirrors _⟩
  refine ⟨found, ?_, ?_, by decide +kernel⟩
  · exact endsTwice_of_run MemoryStore.ledger MemoryStore.ledger_takes found rfl 100 {} trivial
      undecided { id := 7 } 2 3
  · exact endsTwice_of_run FallbackStore.ledger FallbackStore.ledger_takes found rfl 100 shaky sound
      undecided { id := 7 } 2 3

/-- The drink is stored by the first press and lost with the second. -/
theorem undecided_loses_selection :
    cafe.Accepted ∧
      (((begin 100 ({} : MemoryStore)).run cafe undecided).pressDone cafe { id := 7 } "drinks"
        2).profiles.answers 7 = (∅ : Profile).insert "drinks" (.ofTexts ["coffee"]) ∧
      ((((begin 100 ({} : MemoryStore)).run cafe undecided).pressDone cafe { id := 7 } "drinks"
        2).pressDone cafe { id := 7 } "drinks" 3).profiles.answers 7 =
          (∅ : Profile).insert "drinks" (.ofTexts []) := by
  decide +kernel

end Conversation

end Dialogue
