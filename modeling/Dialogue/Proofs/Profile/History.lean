/-
# What a fallback store answers after any history

A history is a list of deeds, the latest first: calls of a fallback store, each of which reaches the
durable store or does not, and changes of the durable store behind its back. This module says what a
read gives after a history, in terms of the deeds alone:

* the value last written, if that write did not reach the durable store;
* otherwise what the durable store has now, if the read reaches it;
* otherwise the last word: what was written last, or what a read last gave, whichever came later.

The proof follows one cell through the history. Deeds that do not concern the cell leave it alone,
so they can be struck from the history without changing the answer.
-/

import Dialogue.Proofs.Profile.Cell

namespace Dialogue

/-- One step of a history. A call says whether it reaches the durable store. -/
inductive Deed where
  | write (user : UserId) (key : String) (value : Value) (reached : Bool)
  | read (user : UserId) (reached : Bool)
  | record (user : User) (reached : Bool)
  /-- The durable store is given another value, or loses it, by someone else. -/
  | outside (user : UserId) (key : String) (value : Option Value)

namespace Deed

/-- Whether a deed concerns a variable of a user. -/
def concerns (user : UserId) (key : String) : Deed → Bool
  | .write user' key' _ _ => user = user' ∧ key = key'
  | .read user' _ => user = user'
  | .record _ _ => false
  | .outside user' key' _ => user = user' ∧ key = key'

end Deed

/-- Give one answer another value, or remove it. -/
def MemoryStore.change (m : MemoryStore) (user : UserId) (key : String) :
    Option Value → MemoryStore
  | some value => m.setValue user key value
  | none => m.setAnswers user ((m.answers user).erase key)

theorem MemoryStore.get?_answers_change (m : MemoryStore) (user other : UserId)
    (key other' : String) (value : Option Value) :
    ((m.change user key value).answers other).get? other' =
      if other = user ∧ other' = key then value else (m.answers other).get? other' := by
  cases value with
  | some value => exact m.get?_answers_setValue user other key other' value
  | none =>
      rw [change]
      rw [answers_setAnswers]
      by_cases same : other = user
      · subst same
        rw [if_pos rfl, Table.get?_erase]
        simp
      · rw [if_neg same, if_neg fun both => same both.1]

namespace FallbackStore

/-- From now on the durable store lets every call through, or none. -/
def arm (f : FallbackStore (Unreliable MemoryStore)) (reached : Bool) :
    FallbackStore (Unreliable MemoryStore) :=
  { f with
    durable := f.durable.map fun d =>
      d.refusing (if reached then [] else [.record, .read, .write]) }

/-- Do a deed. -/
def doing (f : FallbackStore (Unreliable MemoryStore)) :
    Deed → Except StorageError Unit × FallbackStore (Unreliable MemoryStore)
  | .write user key value reached => ProfileStore.write (f.arm reached) user key value
  | .read user reached =>
      let (result, f) := ProfileStore.read (f.arm reached) user
      (result.map fun _ => (), f)
  | .record user reached => ProfileStore.record (f.arm reached) user
  | .outside user key value =>
      (.ok (), { f with
        durable := f.durable.map fun d => { d with inner := d.inner.change user key value } })

/-- The store after a history that began with some content of the durable store. -/
def after (initial : MemoryStore) : List Deed → FallbackStore (Unreliable MemoryStore)
  | [] => { durable := some { inner := initial } }
  | deed :: earlier => ((after initial earlier).doing deed).2

/-- What the durable store has of a variable of a user. -/
def durableValue? (f : FallbackStore (Unreliable MemoryStore)) (user : UserId) (key : String) :
    Option Value :=
  f.durable.bind fun d => (d.inner.answers user).get? key

/-- The answers that a read gives after a history. -/
def answers (initial : MemoryStore) (history : List Deed) (user : UserId) (reached : Bool) :
    Profile :=
  (((after initial history).arm reached).read user).1

/-- The last write of a variable of a user, and whether it reached the durable store. -/
def lastWrite? (user : UserId) (key : String) : List Deed → Option (Value × Bool)
  | [] => none
  | .write user' key' value reached :: earlier =>
      if user = user' ∧ key = key' then some (value, reached) else lastWrite? user key earlier
  | _ :: earlier => lastWrite? user key earlier

/-- The later of the last write of a variable and the last read of the user that reached the durable
store: the value that was written, or what the read gave. -/
def lastWord? (initial : MemoryStore) (user : UserId) (key : String) : List Deed → Option Value
  | [] => none
  | .write user' key' value _ :: earlier =>
      if user = user' ∧ key = key' then some value else lastWord? initial user key earlier
  | .read user' reached :: earlier =>
      if user = user' ∧ reached then (answers initial earlier user true).get? key
      else lastWord? initial user key earlier
  | _ :: earlier => lastWord? initial user key earlier

/-! ## One cell through a history -/

section Arm

variable (f : FallbackStore (Unreliable MemoryStore)) (reached : Bool)

theorem isSome_durable_arm (backed : f.durable.isSome) : (f.arm reached).durable.isSome := by
  show (f.durable.map _).isSome
  rw [Option.isSome_map]
  exact backed

theorem cell_arm (user : UserId) (key : String) :
    (f.arm reached).cell user key = f.cell user key := by
  unfold cell arm
  cases f.durable with
  | none => rfl
  | some d => rfl

theorem admits_arm (backed : f.durable.isSome) (kind : StoreCall) :
    (f.arm reached).admits kind = reached := by
  obtain ⟨d, durable⟩ := Option.isSome_iff_exists.1 backed
  rw [admits, arm]
  rw [durable]
  cases reached with
  | true => rfl
  | false =>
      cases kind with
      | record => rfl
      | read => rfl
      | write => rfl

end Arm

end FallbackStore

/-- What a deed that concerns a cell does to it. -/
def Cell.next (c : Cell) : Deed → Cell
  | .write _ _ value reached => c.write value reached
  | .read _ reached => c.read reached
  | .record _ _ => c
  | .outside _ _ value => { c with durable := value }

namespace FallbackStore

variable {f : FallbackStore (Unreliable MemoryStore)}

theorem isSome_durable_doing (backed : f.durable.isSome) (deed : Deed) :
    (f.doing deed).2.durable.isSome := by
  cases deed with
  | write user key value reached =>
      exact isSome_durable_write (isSome_durable_arm f reached backed) user key value
  | read user reached => exact isSome_durable_read (isSome_durable_arm f reached backed) user
  | record user reached => exact isSome_durable_record (isSome_durable_arm f reached backed) user
  | outside user key value =>
      show (f.durable.map _).isSome
      rw [Option.isSome_map]
      exact backed

/-- A deed does to a cell what it says if it concerns the cell, and nothing otherwise. -/
theorem cell_doing (backed : f.durable.isSome) (deed : Deed) (user : UserId) (key : String) :
    (f.doing deed).2.cell user key =
      if deed.concerns user key then (f.cell user key).next deed else f.cell user key := by
  cases deed with
  | write user' key' value reached =>
      have armed := isSome_durable_arm f reached backed
      show ((f.arm reached).write user' key' value).cell user key = _
      rw [cell_write armed, admits_arm f reached backed, cell_arm]
      simp only [Deed.concerns, Cell.next, decide_eq_true_eq]
  | read user' reached =>
      have armed := isSome_durable_arm f reached backed
      show ((f.arm reached).read user').2.cell user key = _
      rw [cell_read armed, admits_arm f reached backed, cell_arm]
      simp only [Deed.concerns, Cell.next, decide_eq_true_eq]
  | record user' reached =>
      show ((f.arm reached).record user').cell user key = _
      rw [cell_record, cell_arm]
      rfl
  | outside user' key' value =>
      obtain ⟨d, durable⟩ := Option.isSome_iff_exists.1 backed
      have changed : (f.doing (.outside user' key' value)).2.durableValue? user key =
          if user = user' ∧ key = key' then value else f.durableValue? user key := by
        unfold durableValue? doing
        rw [durable]
        exact d.inner.get?_answers_change user' user key' key value
      simp only [Deed.concerns, Cell.next, decide_eq_true_eq]
      by_cases here : user = user' ∧ key = key'
      · rw [if_pos here] at changed ⊢
        exact Cell.ext rfl rfl changed
      · rw [if_neg here] at changed ⊢
        exact Cell.ext rfl rfl changed

variable (initial : MemoryStore) (user : UserId) (key : String)

theorem isSome_durable_after (history : List Deed) : (after initial history).durable.isSome := by
  induction history with
  | nil => rfl
  | cons deed earlier ih => exact isSome_durable_doing ih deed

theorem cell_after_cons (deed : Deed) (earlier : List Deed) :
    (after initial (deed :: earlier)).cell user key =
      if deed.concerns user key then ((after initial earlier).cell user key).next deed
      else (after initial earlier).cell user key :=
  cell_doing (isSome_durable_after initial earlier) deed user key

/-- Deeds that do not concern a cell can be struck from the history. -/
theorem cell_after_filter (history : List Deed) :
    (after initial (history.filter (Deed.concerns user key))).cell user key =
      (after initial history).cell user key := by
  induction history with
  | nil => rfl
  | cons deed earlier ih =>
      rw [cell_after_cons]
      by_cases concerned : deed.concerns user key = true
      · rw [List.filter_cons_of_pos concerned, cell_after_cons, if_pos concerned, if_pos concerned,
          ih]
      · rw [List.filter_cons_of_neg concerned, if_neg concerned, ih]

/-- What a read gives of a variable is the answer of its cell. -/
theorem get?_answers (history : List Deed) (reached : Bool) :
    (answers initial history user reached).get? key =
      ((after initial history).cell user key).answer reached := by
  have backed := isSome_durable_after initial history
  rw [answers]
  rw [get?_read (isSome_durable_arm _ reached backed), admits_arm _ reached backed, cell_arm]

/-- What the history says of a cell. -/
structure Told (history : List Deed) (c : Cell) : Prop where
  /-- The cell is behind if the last write did not reach the durable store. -/
  behind : c.behind = (lastWrite? user key history).any (!·.2)
  /-- Memory has the last word. -/
  memory : c.memory = lastWord? initial user key history
  /-- While the cell is behind, the last word is what was written. -/
  written : ∀ value, lastWrite? user key history = some (value, false) → c.memory = some value

variable {initial user key} {history earlier : List Deed} {c c' : Cell}

/-- A deed that neither writes nor tells anything of the variable changes nothing of this. -/
theorem Told.carry (told : Told initial user key earlier c) (behind : c'.behind = c.behind)
    (memory : c'.memory = c.memory)
    (write : lastWrite? user key history = lastWrite? user key earlier)
    (word : lastWord? initial user key history = lastWord? initial user key earlier) :
    Told initial user key history c' where
  behind := by
    rw [behind, write]
    exact told.behind
  memory := by
    rw [memory, word]
    exact told.memory
  written := by
    rw [memory, write]
    exact told.written

/-- While a value did not reach the durable store, every read gives that value. -/
theorem Told.answer_of_unreached (told : Told initial user key history c) {value : Value}
    (unreached : lastWrite? user key history = some (value, false)) (reached : Bool) :
    c.answer reached = some value := by
  have behind : c.behind = true := by
    rw [told.behind, unreached]
    rfl
  rw [Cell.answer]
  rw [behind, told.written value unreached]
  cases reached with
  | true => rfl
  | false => rfl

/-- Otherwise a read that reaches the durable store gives what is there. -/
theorem Told.answer_of_reached (told : Told initial user key history c)
    (synced : ∀ value, lastWrite? user key history ≠ some (value, false)) :
    c.answer true = c.durable := by
  have behind : c.behind = false := by
    rw [told.behind]
    cases last : lastWrite? user key history with
    | none => rfl
    | some write =>
        obtain ⟨value, reached⟩ := write
        cases reached with
        | true => rfl
        | false => exact absurd last (synced value)
  rw [Cell.answer]
  rw [behind]
  rfl

/-- The history says of the cell what the store keeps. The induction is on the history; only writes
of the variable and reads of the user that reach the durable store leave a new word. -/
theorem told_after (initial : MemoryStore) (user : UserId) (key : String) (history : List Deed) :
    Told initial user key history ((after initial history).cell user key) := by
  induction history with
  | nil =>
      refine ⟨rfl, rfl, ?_⟩
      intro value absurd
      cases absurd
  | cons deed earlier ih =>
      rw [cell_after_cons]
      cases deed with
      | write user' key' value reached =>
          simp only [Deed.concerns, decide_eq_true_eq]
          by_cases here : user = user' ∧ key = key'
          · rw [if_pos here]
            refine ⟨?_, ?_, ?_⟩
            · rw [lastWrite?, if_pos here]
              rfl
            · rw [lastWord?, if_pos here]
              rfl
            · rw [lastWrite?, if_pos here]
              intro value' same
              cases same
              rfl
          · rw [if_neg here]
            apply ih.carry rfl rfl
            · rw [lastWrite?, if_neg here]
            · rw [lastWord?, if_neg here]
      | read user' reached =>
          simp only [Deed.concerns, decide_eq_true_eq]
          by_cases here : user = user'
          · rw [if_pos here]
            cases reached with
            | true =>
                have told : lastWord? initial user key (.read user' true :: earlier) =
                    ((after initial earlier).cell user key).answer true := by
                  rw [lastWord?, if_pos ⟨here, rfl⟩, get?_answers]
                refine ⟨ih.behind, told.symm, ?_⟩
                intro value unreached
                exact ih.answer_of_unreached unreached true
            | false =>
                refine ih.carry rfl rfl rfl ?_
                rw [lastWord?, if_neg fun both => Bool.false_ne_true both.2]
          · rw [if_neg here]
            refine ih.carry rfl rfl rfl ?_
            rw [lastWord?, if_neg fun both => here both.1]
      | record user' reached => exact ih.carry rfl rfl rfl rfl
      | outside user' key' value =>
          split
          · exact ih.carry rfl rfl rfl rfl
          · exact ih.carry rfl rfl rfl rfl

/-- **What a fallback store answers.** After any history no call fails, and a read gives for each
variable:

* the value last written, if that write did not reach the durable store;
* otherwise exactly what the durable store has, if the read reaches it;
* otherwise the last word on the variable.

Deeds for other users or other variables make no difference. -/
theorem answers_of_history (initial : MemoryStore) (history : List Deed) (user : UserId)
    (reached : Bool) :
    (∀ deed, ((after initial history).doing deed).1 = .ok ()) ∧
    (ProfileStore.read ((after initial history).arm reached) user).1 =
      .ok (answers initial history user reached) ∧
    ∀ key,
      (∀ value, lastWrite? user key history = some (value, false) →
        (answers initial history user reached).get? key = some value) ∧
      ((∀ value, lastWrite? user key history ≠ some (value, false)) →
        (answers initial history user reached).get? key =
          if reached then (after initial history).durableValue? user key
          else lastWord? initial user key history) ∧
      (answers initial history user reached).get? key =
        (answers initial (history.filter (Deed.concerns user key)) user reached).get? key := by
  refine ⟨?_, rfl, ?_⟩
  · intro deed
    cases deed with
    | write user key value reached => rfl
    | read user reached => rfl
    | record user reached => rfl
    | outside user key value => rfl
  · intro key
    have told := told_after initial user key history
    refine ⟨?_, ?_, ?_⟩
    · intro value unreached
      rw [get?_answers]
      exact told.answer_of_unreached unreached reached
    · intro synced
      rw [get?_answers]
      cases reached with
      | true => exact told.answer_of_reached synced
      | false => exact told.memory
    · rw [get?_answers, get?_answers, cell_after_filter]

end FallbackStore

end Dialogue
