/-
# What a store of profiles keeps of one user

Every call of a store is made for one user. `ProfileStore.Isolation` says that it stays with that
user: two states of a store that are the same for a user give the user the same answers and stay the
same for the user, if the user makes the same calls in both, and a call of somebody else in one of
them does not matter.

Memory has this property. A store whose calls may be refused inherits it from the store behind it as
long as it always refuses the same kinds of calls; if it were to refuse every third call, users
would notice each other. The fallback store inherits it from its durable part.
-/

import Dialogue.Proofs.Conversation.Simulation
import Dialogue.Proofs.Profile.Cell

namespace Dialogue

/-- A relation, for each user, between the states of a store that are the same for this user. -/
structure ProfileStore.Isolation {σ : Type} [ProfileStore σ] (R : UserId → σ → σ → Prop) :
    Prop where
  symm : ∀ {user : UserId} {s t : σ}, R user s t → R user t s
  /-- A read gives the same. -/
  answer : ∀ {user : UserId} {s t : σ}, R user s t →
    (ProfileStore.read s user).1 = (ProfileStore.read t user).1
  /-- A write succeeds or fails alike. -/
  taken : ∀ {user : UserId} {s t : σ} (key : String) (value : Value), R user s t →
    (ProfileStore.write s user key value).1 = (ProfileStore.write t user key value).1
  record : ∀ {s t : σ} (who : User), R who.id s t →
    R who.id (ProfileStore.record s who).2 (ProfileStore.record t who).2
  read : ∀ {user : UserId} {s t : σ}, R user s t →
    R user (ProfileStore.read s user).2 (ProfileStore.read t user).2
  write : ∀ {user : UserId} {s t : σ} (key : String) (value : Value), R user s t →
    R user (ProfileStore.write s user key value).2 (ProfileStore.write t user key value).2
  recordOther : ∀ {user : UserId} {s t : σ} (who : User), user ≠ who.id → R user s t →
    R user (ProfileStore.record s who).2 t
  readOther : ∀ {user other : UserId} {s t : σ}, user ≠ other → R user s t →
    R user (ProfileStore.read s other).2 t
  writeOther : ∀ {user other : UserId} {s t : σ} (key : String) (value : Value), user ≠ other →
    R user s t → R user (ProfileStore.write s other key value).2 t

/-- States that are the same for a user cannot be told apart by the calls of this user. -/
theorem ProfileStore.Isolation.simulationFor {σ : Type} [ProfileStore σ] {R : UserId → σ → σ → Prop}
    (isolation : Isolation R) (user : UserId) : SimulationFor user (R user) where
  shown := by
    intro s t same
    unfold ProfileStore.shown
    rw [isolation.answer same]
  record := by
    intro s t who own same
    subst own
    exact isolation.record who same
  read := isolation.read
  write := isolation.write

/-! ## Memory -/

/-- Memory is the same for a user if the answers of the user are. -/
theorem MemoryStore.isolation :
    ProfileStore.Isolation fun user (s t : MemoryStore) => s.answers user = t.answers user where
  symm := Eq.symm
  answer := congrArg Except.ok
  taken _ _ _ := rfl
  record := by
    intro s t who same
    show (s.countOne who.id).answers who.id = (t.countOne who.id).answers who.id
    rw [answers_countOne, answers_countOne, same]
  read := id
  write := by
    intro user s t key value same
    show (s.setValue user key value).answers user = (t.setValue user key value).answers user
    rw [answers_setValue, answers_setValue, same]
  recordOther := by
    intro user s t who _ same
    exact (s.answers_countOne who.id user).trans same
  readOther _ same := same
  writeOther := by
    intro user other s t key value foreign same
    show (s.setValue other key value).answers user = t.answers user
    rw [answers_setValue, if_neg foreign, same]

/-! ## Stores whose calls may be refused -/

namespace Unreliable

variable {σ α : Type} {R : UserId → σ → σ → Prop} {user : UserId} {s t : Unreliable σ}

/-- Two stores that always refuse the same kinds of calls, in front of stores that are the same for
a user. -/
structure Together (R : UserId → σ → σ → Prop) (user : UserId) (s t : Unreliable σ) : Prop where
  refuses : s.refuses = t.refuses
  /-- The number of a call does not matter. -/
  steady : ∀ n n' kind, s.refuses n kind = s.refuses n' kind
  inner : R user s.inner t.inner

namespace Together

theorem admits (together : Together R user s t) (kind : StoreCall) :
    s.admits kind = t.admits kind := by
  unfold Unreliable.admits
  rw [together.steady s.calls t.calls, together.refuses]

theorem call (together : Together R user s t) (kind : StoreCall)
    {run : σ → Except StorageError α × σ} (kept : R user (run s.inner).2 (run t.inner).2) :
    Together R user (s.call kind run).2 (t.call kind run).2 := by
  have same := together.admits kind
  cases admitted : t.admits kind with
  | true =>
      rw [call_of_admits run (same.trans admitted), call_of_admits run admitted]
      exact ⟨together.refuses, together.steady, kept⟩
  | false =>
      rw [call_of_not_admits run (same.trans admitted), call_of_not_admits run admitted]
      exact ⟨together.refuses, together.steady, together.inner⟩

theorem result (together : Together R user s t) (kind : StoreCall)
    {run : σ → Except StorageError α × σ} (same : (run s.inner).1 = (run t.inner).1) :
    (s.call kind run).1 = (t.call kind run).1 := by
  have alike := together.admits kind
  cases admitted : t.admits kind with
  | true =>
      rw [call_of_admits run (alike.trans admitted), call_of_admits run admitted]
      exact same
  | false => rw [call_of_not_admits run (alike.trans admitted), call_of_not_admits run admitted]

theorem callOther (together : Together R user s t) (kind : StoreCall)
    {run : σ → Except StorageError α × σ} (kept : R user (run s.inner).2 t.inner) :
    Together R user (s.call kind run).2 t := by
  cases admitted : s.admits kind with
  | true =>
      rw [call_of_admits run admitted]
      exact ⟨together.refuses, together.steady, kept⟩
  | false =>
      rw [call_of_not_admits run admitted]
      exact ⟨together.refuses, together.steady, together.inner⟩

end Together

/-- Refusing the same kinds of calls all the time keeps users apart. -/
theorem isolation [ProfileStore σ] (inner : ProfileStore.Isolation R) :
    ProfileStore.Isolation (Together R) where
  symm together :=
    { refuses := together.refuses.symm
      steady := by
        rw [← together.refuses]
        exact together.steady
      inner := inner.symm together.inner }
  answer together := together.result .read (inner.answer together.inner)
  taken key value together := together.result .write (inner.taken key value together.inner)
  record who together := together.call .record (inner.record who together.inner)
  read together := together.call .read (inner.read together.inner)
  write key value together := together.call .write (inner.write key value together.inner)
  recordOther who foreign together :=
    together.callOther .record (inner.recordOther who foreign together.inner)
  readOther foreign together := together.callOther .read (inner.readOther foreign together.inner)
  writeOther key value foreign together :=
    together.callOther .write (inner.writeOther key value foreign together.inner)

end Unreliable

/-! ## Fallback stores -/

namespace FallbackStore

variable {σ : Type} {R : UserId → σ → σ → Prop} {user : UserId} {f g : FallbackStore σ}

/-- Two fallback stores with the same answers of a user in memory and the same notes about them, in
front of durable stores that are the same for the user. -/
structure Together (R : UserId → σ → σ → Prop) (user : UserId) (f g : FallbackStore σ) : Prop where
  memory : f.memory.answers user = g.memory.answers user
  behind : f.behind user = g.behind user
  durable : Option.Rel (R user) f.durable g.durable

theorem behind_mark (user other : UserId) (key : String) (reached : Bool) (durable : Option σ)
    (memory : MemoryStore) :
    ({ durable, memory, unsynced := f.mark user key reached } : FallbackStore σ).behind other =
      if other = user then
        (if reached then (f.behind user).erase key else (f.behind user).insert key ())
      else f.behind other := by
  unfold behind mark
  dsimp only
  rw [Table.get?_insert]
  split
  · rfl
  · rfl

variable [ProfileStore σ]

theorem read_of_none (user : UserId) (absent : f.durable = none) :
    f.read user = (f.memory.answers user, f) := by
  rw [read]
  rw [absent]

theorem read_of_ok {d : σ} {profile : Profile} (user : UserId) (backed : f.durable = some d)
    (reads : (ProfileStore.read d user).1 = .ok profile) :
    f.read user =
      (f.merge user profile,
        { f with
          durable := some (ProfileStore.read d user).2
          memory := f.memory.setAnswers user (f.merge user profile) }) := by
  rw [read]
  rw [backed]
  dsimp only
  split
  · next found d' called =>
      rw [called] at reads ⊢
      cases reads
      rfl
  · next called =>
      rw [called] at reads
      cases reads

theorem read_of_error {d : σ} {e : StorageError} (user : UserId) (backed : f.durable = some d)
    (fails : (ProfileStore.read d user).1 = .error e) :
    f.read user =
      (f.memory.answers user, { f with durable := some (ProfileStore.read d user).2 }) := by
  rw [read]
  rw [backed]
  dsimp only
  split
  · next called =>
      rw [called] at fails
      cases fails
  · next called => rw [called]

theorem write_of_none (user : UserId) (key : String) (value : Value) (absent : f.durable = none) :
    f.write user key value = { f with memory := f.memory.setValue user key value } := by
  rw [write]
  rw [absent]

theorem write_of_some {d : σ} (user : UserId) (key : String) (value : Value)
    (backed : f.durable = some d) :
    f.write user key value =
      { durable := some (ProfileStore.write d user key value).2
        memory := f.memory.setValue user key value
        unsynced := f.mark user key (ProfileStore.write d user key value).1.isOk } := by
  rw [write]
  rw [backed]

namespace Together

omit [ProfileStore σ] in
/-- Either there are no durable stores, or there are two that are the same for the user. -/
theorem durable_cases (together : Together R user f g) :
    (f.durable = none ∧ g.durable = none) ∨
      ∃ d d', f.durable = some d ∧ g.durable = some d' ∧ R user d d' := by
  have split {o o' : Option σ} (related : Option.Rel (R user) o o') :
      (o = none ∧ o' = none) ∨ ∃ d d', o = some d ∧ o' = some d' ∧ R user d d' := by
    cases related with
    | none => exact .inl ⟨rfl, rfl⟩
    | some same => exact .inr ⟨_, _, rfl, rfl, same⟩
  exact split together.durable

omit [ProfileStore σ] in
theorem map_durable (together : Together R user f g) {F G : σ → σ}
    (kept : ∀ {d d'}, R user d d' → R user (F d) (G d')) :
    Option.Rel (R user) (f.durable.map F) (g.durable.map G) := by
  rcases together.durable_cases with ⟨left, right⟩ | ⟨d, d', left, right, same⟩
  · rw [left, right]
    exact .none
  · rw [left, right]
    exact .some (kept same)

omit [ProfileStore σ] in
theorem merge (together : Together R user f g) (profile : Profile) :
    f.merge user profile = g.merge user profile := by
  unfold FallbackStore.merge
  rw [together.memory, together.behind]

variable (inner : ProfileStore.Isolation R)
include inner

theorem symm (together : Together R user f g) : Together R user g f := by
  refine ⟨together.memory.symm, together.behind.symm, ?_⟩
  rcases together.durable_cases with ⟨left, right⟩ | ⟨d, d', left, right, same⟩
  · rw [left, right]
    exact .none
  · rw [left, right]
    exact .some (inner.symm same)

/-- A read gives the same answers and leaves the stores together. -/
theorem read (together : Together R user f g) :
    (f.read user).1 = (g.read user).1 ∧ Together R user (f.read user).2 (g.read user).2 := by
  rcases together.durable_cases with ⟨left, right⟩ | ⟨d, d', left, right, same⟩
  · rw [read_of_none user left, read_of_none user right]
    exact ⟨together.memory, together⟩
  · have answer := inner.answer same
    have after := inner.read same
    cases found : (ProfileStore.read d' user).1 with
    | ok profile =>
        rw [read_of_ok user left (answer.trans found), read_of_ok user right found,
          together.merge profile]
        refine ⟨rfl, ?_, together.behind, .some after⟩
        show (f.memory.setAnswers user _).answers user = (g.memory.setAnswers user _).answers user
        rw [MemoryStore.answers_setAnswers, MemoryStore.answers_setAnswers, if_pos rfl, if_pos rfl]
    | error e =>
        rw [read_of_error user left (answer.trans found), read_of_error user right found]
        exact ⟨together.memory, together.memory, together.behind, .some after⟩

theorem write (key : String) (value : Value) (together : Together R user f g) :
    Together R user (f.write user key value) (g.write user key value) := by
  have memory := MemoryStore.isolation.write key value together.memory
  rcases together.durable_cases with ⟨left, right⟩ | ⟨d, d', left, right, same⟩
  · rw [write_of_none user key value left, write_of_none user key value right]
    exact ⟨memory, together.behind, together.durable⟩
  · rw [write_of_some user key value left, write_of_some user key value right,
      inner.taken key value same]
    refine ⟨memory, ?_, .some (inner.write key value same)⟩
    rw [behind_mark, behind_mark, together.behind]

theorem record (who : User) (together : Together R who.id f g) :
    Together R who.id (f.record who) (g.record who) where
  memory := MemoryStore.isolation.record who together.memory
  behind := together.behind
  durable := together.map_durable (inner.record who)

theorem readOther {other : UserId} (foreign : user ≠ other) (together : Together R user f g) :
    Together R user (f.read other).2 g := by
  rcases together.durable_cases with ⟨left, right⟩ | ⟨d, d', left, right, same⟩
  · rw [read_of_none other left]
    exact together
  · have after := inner.readOther foreign same
    cases found : (ProfileStore.read d other).1 with
    | ok profile =>
        rw [read_of_ok other left found]
        refine ⟨?_, together.behind, ?_⟩
        · show (f.memory.setAnswers other _).answers user = g.memory.answers user
          rw [MemoryStore.answers_setAnswers, if_neg foreign, together.memory]
        · rw [right]
          exact .some after
    | error e =>
        rw [read_of_error other left found]
        refine ⟨together.memory, together.behind, ?_⟩
        rw [right]
        exact .some after

theorem writeOther {other : UserId} (key : String) (value : Value) (foreign : user ≠ other)
    (together : Together R user f g) : Together R user (f.write other key value) g := by
  have memory := MemoryStore.isolation.writeOther key value foreign together.memory
  rcases together.durable_cases with ⟨left, right⟩ | ⟨d, d', left, right, same⟩
  · rw [write_of_none other key value left]
    exact ⟨memory, together.behind, together.durable⟩
  · rw [write_of_some other key value left]
    refine ⟨memory, ?_, ?_⟩
    · rw [behind_mark, if_neg foreign, together.behind]
    · rw [right]
      exact .some (inner.writeOther key value foreign same)

theorem recordOther (who : User) (foreign : user ≠ who.id) (together : Together R user f g) :
    Together R user (f.record who) g where
  memory := MemoryStore.isolation.recordOther who foreign together.memory
  behind := together.behind
  durable := by
    have recorded := together.map_durable (G := id) (inner.recordOther who foreign)
    rw [Option.map_id_fun] at recorded
    exact recorded

end Together

/-- A fallback store keeps users apart if its durable part does. -/
theorem isolation (inner : ProfileStore.Isolation R) : ProfileStore.Isolation (Together R) where
  symm := .symm inner
  answer together := congrArg Except.ok (together.read inner).1
  taken _ _ _ := rfl
  record who together := together.record inner who
  read together := (together.read inner).2
  write key value together := together.write inner key value
  recordOther who foreign together := together.recordOther inner who foreign
  readOther foreign together := together.readOther inner foreign
  writeOther key value foreign together := together.writeOther inner key value foreign

end FallbackStore

end Dialogue
