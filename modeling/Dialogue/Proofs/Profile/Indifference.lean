/-
# Questions that change no answer

Every event is noted in the store of profiles, and many ask it for the answers of a user. Neither is
meant to change an answer. In memory this is plain. The fallback store copies what it reads, so a
question does change it; what it does not change is any later answer, whether or not the durable
store is reached then.

`ProfileStore.Indifference` is a relation between the states of a store that differ in such things
only. States that are related give the same answers and stay related under the same calls, and a
note or a question on one side alone makes no difference.
-/

import Dialogue.Proofs.Profile.Isolation
import Dialogue.Proofs.Profile.Transparency

namespace Dialogue

/-- A relation between the states of a store that differ at most in what was noted and asked. -/
structure ProfileStore.Indifference {σ : Type} [ProfileStore σ] (R : σ → σ → Prop) : Prop where
  /-- A read gives the same. -/
  answer : ∀ {s t : σ} (user : UserId), R s t →
    (ProfileStore.read s user).1 = (ProfileStore.read t user).1
  record : ∀ {s t : σ} (who : User), R s t →
    R (ProfileStore.record s who).2 (ProfileStore.record t who).2
  read : ∀ {s t : σ} (user : UserId), R s t →
    R (ProfileStore.read s user).2 (ProfileStore.read t user).2
  write : ∀ {s t : σ} (user : UserId) (key : String) (value : Value), R s t →
    R (ProfileStore.write s user key value).2 (ProfileStore.write t user key value).2
  /-- A note on one side makes no difference. -/
  noted : ∀ {s t : σ} (who : User), R s t → R (ProfileStore.record s who).2 t
  /-- A question on one side makes no difference. -/
  asked : ∀ {s t : σ} (user : UserId), R s t → R (ProfileStore.read s user).2 t

namespace ProfileStore.Indifference

variable {σ : Type} [ProfileStore σ] {R : σ → σ → Prop} {s t : σ}

theorem shown (indifference : Indifference R) (user : UserId) (related : R s t) :
    ProfileStore.shown s user = ProfileStore.shown t user := by
  unfold ProfileStore.shown
  rw [indifference.answer user related]

theorem simulationFor (indifference : Indifference R) (user : UserId) : SimulationFor user R where
  shown := indifference.shown user
  record who _ := indifference.record who
  read := indifference.read user
  write := indifference.write user

end ProfileStore.Indifference

/-- Memory is indifferent to what is noted besides the answers. -/
theorem MemoryStore.indifference :
    ProfileStore.Indifference fun s t : MemoryStore => ∀ user, s.answers user = t.answers user where
  answer user same := congrArg Except.ok (same user)
  record := by
    intro s t who same user
    show (s.countOne who.id).answers user = (t.countOne who.id).answers user
    rw [answers_countOne, answers_countOne, same user]
  read _ same := same
  write := by
    intro s t user key value same other
    show (s.setValue user key value).answers other = (t.setValue user key value).answers other
    rw [answers_setValue, answers_setValue, same user, same other]
  noted := by
    intro s t who same user
    exact (s.answers_countOne who.id user).trans (same user)
  asked _ same := same

/-- Refusing the same kinds of calls all the time keeps a store indifferent. -/
theorem Unreliable.indifference {σ : Type} [ProfileStore σ] {R : σ → σ → Prop}
    (inner : ProfileStore.Indifference R) :
    ProfileStore.Indifference fun s t : Unreliable σ => ∀ user, Together (fun _ => R) user s t where
  answer user together := (together user).result .read (inner.answer user (together user).inner)
  record who together user := (together user).call .record (inner.record who (together user).inner)
  read user together other := (together other).call .read (inner.read user (together other).inner)
  write user key value together other :=
    (together other).call .write (inner.write user key value (together other).inner)
  noted who together user :=
    (together user).callOther .record (inner.noted who (together user).inner)
  asked user together other :=
    (together other).callOther .read (inner.asked user (together other).inner)

namespace FallbackStore

variable {σ : Type} [ProfileStore σ]

/-- Fallback stores that cannot be told from memory are as indifferent as memory. -/
theorem indifference {M : FallbackStore σ → MemoryStore → Prop}
    (simulation : ProfileStore.Simulation M) :
    ProfileStore.Indifference fun f g : FallbackStore σ =>
      ∃ m m', M f m ∧ M g m' ∧ ∀ user, m.answers user = m'.answers user where
  answer := by
    rintro f g user ⟨m, m', left, right, same⟩
    show Except.ok (ProfileStore.shown f user) = Except.ok (ProfileStore.shown g user)
    rw [simulation.shown user left, simulation.shown user right]
    exact MemoryStore.indifference.answer user same
  record := by
    rintro f g who ⟨m, m', left, right, same⟩
    exact ⟨_, _, simulation.record who left, simulation.record who right,
      MemoryStore.indifference.record who same⟩
  read := by
    rintro f g user ⟨m, m', left, right, same⟩
    exact ⟨_, _, simulation.read user left, simulation.read user right, same⟩
  write := by
    rintro f g user key value ⟨m, m', left, right, same⟩
    exact ⟨_, _, simulation.write user key value left, simulation.write user key value right,
      MemoryStore.indifference.write user key value same⟩
  noted := by
    rintro f g who ⟨m, m', left, right, same⟩
    exact ⟨_, _, simulation.record who left, right, MemoryStore.indifference.noted who same⟩
  asked := by
    rintro f g user ⟨m, m', left, right, same⟩
    exact ⟨_, _, simulation.read user left, right, same⟩

/-- A fallback store without a durable store keeps everything in some memory. -/
structure Bare (f : FallbackStore σ) (m : MemoryStore) : Prop where
  unbacked : f.durable = none
  memory : f.memory = m

theorem bare_simulation :
    ProfileStore.Simulation (Bare : FallbackStore σ → MemoryStore → Prop) where
  shown := by
    rintro f m user ⟨unbacked, rfl⟩
    show (f.read user).1 = f.memory.answers user
    rw [read_of_none user unbacked]
  record := by
    rintro f m who ⟨unbacked, rfl⟩
    refine ⟨?_, rfl⟩
    show f.durable.map _ = none
    rw [unbacked, Option.map_none]
  read := by
    rintro f m user ⟨unbacked, rfl⟩
    show Bare (f.read user).2 f.memory
    rw [read_of_none user unbacked]
    exact ⟨unbacked, rfl⟩
  write := by
    rintro f m user key value ⟨unbacked, rfl⟩
    show Bare (f.write user key value) (f.memory.setValue user key value)
    rw [write_of_none user key value unbacked]
    exact ⟨unbacked, rfl⟩

end FallbackStore

end Dialogue
