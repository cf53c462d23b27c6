/-
# The fallback store, one variable at a time

A fallback store keeps an answer in up to two places, and a note whether the second is behind. For
one variable of one user these three make a `Cell`. This module says what every call does to every
cell, over a durable store that may refuse calls: a write touches one cell, a read touches the cells
of one user, and a record touches none. No cell ever looks at another.

Tables, merging and call numbers do not show beyond this module. What the store does over a
history is a matter of cells.
-/

import Dialogue.Profile.Fallback
import Dialogue.Profile.Unreliable

namespace Dialogue

/-- What a fallback store keeps of one variable of one user. -/
@[ext]
structure Cell where
  /-- The value in memory. -/
  memory : Option Value
  /-- Whether the last write did not reach the durable store. -/
  behind : Bool
  /-- The value in the durable store. -/
  durable : Option Value

namespace Cell

/-- What a read gives. If it reaches the durable store, memory has the word only on what is
behind. -/
def answer (c : Cell) (reached : Bool) : Option Value :=
  if reached then (if c.behind then c.memory.or c.durable else c.durable) else c.memory

/-- The cell after a read: memory has learnt what the read gave. -/
def read (c : Cell) (reached : Bool) : Cell := { c with memory := c.answer reached }

/-- The cell after a write. -/
def write (c : Cell) (value : Value) (reached : Bool) : Cell where
  memory := some value
  behind := !reached
  durable := if reached then some value else c.durable

end Cell

/-! ## The unreliable store behind -/

namespace Unreliable

/-- Whether the next call of a kind is let through. -/
def admits {σ : Type} (u : Unreliable σ) (kind : StoreCall) : Bool := !u.refuses u.calls kind

theorem call_of_admits {σ α : Type} {u : Unreliable σ} {kind : StoreCall}
    (run : σ → Except StorageError α × σ) (admitted : u.admits kind = true) :
    u.call kind run =
      ((run u.inner).1, { u with inner := (run u.inner).2, calls := u.calls + 1 }) := by
  have accepted : u.refuses u.calls kind = false := by
    simpa [admits] using admitted
  rw [call]
  rw [accepted]
  rfl

theorem call_of_not_admits {σ α : Type} {u : Unreliable σ} {kind : StoreCall}
    (run : σ → Except StorageError α × σ) (refused : u.admits kind = false) :
    u.call kind run = (.error kind.refusal, { u with calls := u.calls + 1 }) := by
  have refused : u.refuses u.calls kind = true := by
    simpa [admits] using refused
  rw [call]
  rw [refused]
  rfl

end Unreliable

/-! ## Merging -/

namespace FallbackStore

theorem get?_overlay_singleton (memory profile : Profile) (first key : String) :
    (overlay memory profile [first]).get? key =
      if key = first then (memory.get? key).or (profile.get? key) else profile.get? key := by
  rw [overlay]
  rw [List.foldl_cons, List.foldl_nil]
  by_cases same : key = first
  · subst same
    rw [if_pos rfl]
    cases memory.get? key with
    | none => rfl
    | some value => exact Table.get?_insert_self profile key value
  · rw [if_neg same]
    cases memory.get? first with
    | none => rfl
    | some value =>
        dsimp only
        rw [Table.get?_insert, if_neg same]

/-- Memory has the word on the listed variables as far as it knows them. -/
theorem get?_overlay (memory profile : Profile) (keys : List String) (key : String) :
    (overlay memory profile keys).get? key =
      if key ∈ keys then (memory.get? key).or (profile.get? key) else profile.get? key := by
  induction keys generalizing profile with
  | nil => rfl
  | cons first rest ih =>
      have unfolds : overlay memory profile (first :: rest) =
          overlay memory (overlay memory profile [first]) rest := rfl
      rw [unfolds, ih, get?_overlay_singleton]
      by_cases same : key = first
      · subst same
        rw [if_pos rfl, if_pos List.mem_cons_self]
        cases memory.get? key with
        | none => split <;> rfl
        | some value => split <;> rfl
      · rw [if_neg same]
        simp only [List.mem_cons, same, false_or]

variable {σ : Type} (f : FallbackStore σ)

theorem get?_merge (user : UserId) (profile : Profile) (key : String) :
    (f.merge user profile).get? key =
      if (f.behind user).contains key then
        ((f.memory.answers user).get? key).or (profile.get? key)
      else profile.get? key := by
  rw [merge, Table.contains]
  rw [get?_overlay]
  simp only [Table.mem_keys_iff]

theorem contains_behind_mark (user other : UserId) (key key' : String) (reached : Bool)
    (durable : Option σ) (memory : MemoryStore) :
    (({ durable, memory, unsynced := f.mark user key reached } : FallbackStore σ).behind
        other).contains key' =
      if other = user ∧ key' = key then !reached else (f.behind other).contains key' := by
  unfold behind mark Table.contains
  dsimp only
  rw [Table.get?_insert]
  by_cases same : other = user
  · subst same
    rw [if_pos rfl, Option.getD_some]
    cases reached with
    | true =>
        rw [if_pos rfl, Table.get?_erase]
        by_cases here : key' = key
        · simp [here]
        · simp [here, behind]
    | false =>
        rw [if_neg Bool.false_ne_true, Table.get?_insert]
        by_cases here : key' = key
        · simp [here]
        · simp [here, behind]
  · simp [same]

end FallbackStore

/-! ## Cells of a store that may be refused -/

namespace FallbackStore

variable {f : FallbackStore (Unreliable MemoryStore)}

/-- What the store keeps of one variable of one user. -/
def cell (f : FallbackStore (Unreliable MemoryStore)) (user : UserId) (key : String) : Cell where
  memory := (f.memory.answers user).get? key
  behind := (f.behind user).contains key
  durable := f.durable.bind fun d => (d.inner.answers user).get? key

/-- Whether the next call of a kind reaches the durable store. -/
def admits (f : FallbackStore (Unreliable MemoryStore)) (kind : StoreCall) : Bool :=
  f.durable.any fun d => d.admits kind

theorem admits_of_durable {d : Unreliable MemoryStore} (durable : f.durable = some d)
    (kind : StoreCall) : f.admits kind = d.admits kind := by
  rw [admits]
  rw [durable]
  rfl

theorem cell_record (user : User) (other : UserId) (key : String) :
    (f.record user).cell other key = f.cell other key := by
  have durable : ((f.durable.map fun d => (ProfileStore.record d user).2).bind
      fun d => (d.inner.answers other).get? key) =
        f.durable.bind fun d => (d.inner.answers other).get? key := by
    cases f.durable with
    | none => rfl
    | some d =>
        show ((d.call .record (ProfileStore.record · user)).2.inner.answers other).get? key =
          (d.inner.answers other).get? key
        cases admitted : d.admits .record with
        | true =>
            rw [Unreliable.call_of_admits _ admitted]
            exact congrArg (Table.get? · key) (d.inner.answers_countOne user.id other)
        | false => rw [Unreliable.call_of_not_admits _ admitted]
  ext1
  · exact congrArg (Table.get? · key) (f.memory.answers_countOne user.id other)
  · rfl
  · exact durable

theorem read_of_admits (user : UserId) {d : Unreliable MemoryStore} (backed : f.durable = some d)
    (admitted : d.admits .read = true) :
    f.read user =
      (f.merge user (d.inner.answers user),
        { f with
          durable := some { d with calls := d.calls + 1 }
          memory := f.memory.setAnswers user (f.merge user (d.inner.answers user)) }) := by
  have called : ProfileStore.read d user =
      (.ok (d.inner.answers user), { d with calls := d.calls + 1 }) :=
    Unreliable.call_of_admits _ admitted
  rw [read]
  rw [backed]
  dsimp only
  rw [called]

theorem read_of_not_admits (user : UserId) {d : Unreliable MemoryStore}
    (backed : f.durable = some d) (refused : d.admits .read = false) :
    f.read user =
      (f.memory.answers user, { f with durable := some { d with calls := d.calls + 1 } }) := by
  have called : ProfileStore.read d user =
      (.error StoreCall.read.refusal, { d with calls := d.calls + 1 }) :=
    Unreliable.call_of_not_admits _ refused
  rw [read]
  rw [backed]
  dsimp only
  rw [called]

/-- A read gives the answers of the cells. -/
theorem get?_read (backed : f.durable.isSome) (user : UserId) (key : String) :
    (f.read user).1.get? key = (f.cell user key).answer (f.admits .read) := by
  obtain ⟨d, durable⟩ := Option.isSome_iff_exists.1 backed
  rw [admits_of_durable durable]
  cases admitted : d.admits .read with
  | true =>
      rw [read_of_admits user durable admitted, get?_merge]
      rw [Cell.answer, cell]
      rw [durable]
      rfl
  | false =>
      rw [read_of_not_admits user durable admitted]
      rfl

/-- A read touches the cells of its user. -/
theorem cell_read (backed : f.durable.isSome) (user other : UserId) (key : String) :
    (f.read user).2.cell other key =
      if other = user then (f.cell other key).read (f.admits .read) else f.cell other key := by
  have answered := get?_read backed user key
  obtain ⟨d, durable⟩ := Option.isSome_iff_exists.1 backed
  have kept : f.cell other key =
      { f with durable := some { d with calls := d.calls + 1 } }.cell other key := by
    rw [cell]
    rw [durable]
    rfl
  cases admitted : d.admits .read with
  | true =>
      rw [read_of_admits user durable admitted] at answered ⊢
      rw [kept]
      by_cases same : other = user
      · subst same
        rw [if_pos rfl]
        ext1
        · show ((f.memory.setAnswers other _).answers other).get? key = Cell.answer _ _
          rw [f.memory.answers_setAnswers, if_pos rfl, answered, kept]
        · rfl
        · rfl
      · rw [if_neg same]
        ext1
        · show ((f.memory.setAnswers user _).answers other).get? key = _
          rw [f.memory.answers_setAnswers, if_neg same]
          rfl
        · rfl
        · rfl
  | false =>
      rw [read_of_not_admits user durable admitted] at answered ⊢
      rw [← kept]
      by_cases same : other = user
      · subst same
        rw [if_pos rfl]
        ext1
        · exact answered
        · rfl
        · rfl
      · rw [if_neg same]

theorem exists_write_eq (user : UserId) (key : String) (value : Value)
    {d : Unreliable MemoryStore} (backed : f.durable = some d) :
    ∃ d' : Unreliable MemoryStore,
      f.write user key value =
          { durable := some d'
            memory := f.memory.setValue user key value
            unsynced := f.mark user key (d.admits .write) } ∧
        d'.inner = if d.admits .write then d.inner.setValue user key value else d.inner := by
  rw [write]
  rw [backed]
  dsimp only
  cases admitted : d.admits .write with
  | true =>
      have called : ProfileStore.write d user key value =
          (.ok (), { d with inner := d.inner.setValue user key value, calls := d.calls + 1 }) :=
        Unreliable.call_of_admits _ admitted
      rw [called]
      exact ⟨_, rfl, rfl⟩
  | false =>
      have called : ProfileStore.write d user key value =
          (.error StoreCall.write.refusal, { d with calls := d.calls + 1 }) :=
        Unreliable.call_of_not_admits _ admitted
      rw [called]
      exact ⟨_, rfl, rfl⟩

/-- A write touches one cell. -/
theorem cell_write (backed : f.durable.isSome) (user other : UserId) (key key' : String)
    (value : Value) :
    (f.write user key value).cell other key' =
      if other = user ∧ key' = key then (f.cell other key').write value (f.admits .write)
      else f.cell other key' := by
  obtain ⟨d, durable⟩ := Option.isSome_iff_exists.1 backed
  obtain ⟨d', written, inner⟩ := exists_write_eq user key value durable
  have stored : (d'.inner.answers other).get? key' =
      if d.admits .write = true ∧ other = user ∧ key' = key then some value
      else (d.inner.answers other).get? key' := by
    rw [inner]
    cases d.admits .write with
    | true => simp [MemoryStore.get?_answers_setValue]
    | false => simp
  have before : (f.cell other key').durable = (d.inner.answers other).get? key' := by
    rw [cell]
    rw [durable]
    rfl
  rw [written, admits_of_durable durable]
  by_cases here : other = user ∧ key' = key
  · rw [if_pos here]
    ext1
    · show ((f.memory.setValue user key value).answers other).get? key' = some value
      rw [MemoryStore.get?_answers_setValue, if_pos here]
    · show (Table.contains (behind _ other) key') = _
      rw [contains_behind_mark, if_pos here]
      rfl
    · show (d'.inner.answers other).get? key' = if d.admits .write then some value else _
      rw [stored, before]
      simp only [here, and_self, and_true]
  · rw [if_neg here]
    ext1
    · show ((f.memory.setValue user key value).answers other).get? key' = _
      rw [MemoryStore.get?_answers_setValue, if_neg here]
      rfl
    · show (Table.contains (behind _ other) key') = _
      rw [contains_behind_mark, if_neg here]
      rfl
    · rw [before]
      show (d'.inner.answers other).get? key' = _
      rw [stored, if_neg fun both => here both.2]

/-! No call gives up the durable store. -/

theorem isSome_durable_record (backed : f.durable.isSome) (user : User) :
    (f.record user).durable.isSome := by
  show (f.durable.map _).isSome
  rw [Option.isSome_map]
  exact backed

theorem isSome_durable_read (backed : f.durable.isSome) (user : UserId) :
    (f.read user).2.durable.isSome := by
  obtain ⟨d, durable⟩ := Option.isSome_iff_exists.1 backed
  cases admitted : d.admits .read with
  | true =>
      rw [read_of_admits user durable admitted]
      rfl
  | false =>
      rw [read_of_not_admits user durable admitted]
      rfl

theorem isSome_durable_write (backed : f.durable.isSome) (user : UserId) (key : String)
    (value : Value) : (f.write user key value).durable.isSome := by
  obtain ⟨d, durable⟩ := Option.isSome_iff_exists.1 backed
  obtain ⟨d', written, _⟩ := exists_write_eq user key value durable
  rw [written]
  rfl

end FallbackStore

end Dialogue
