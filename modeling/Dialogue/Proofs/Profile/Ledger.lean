/-
# What a store of profiles holds

A store may keep its answers in several places and may refuse calls; what it holds is still one
profile for each user. `ProfileStore.Ledger` says what a store has to promise about these profiles:
a read that succeeds shows the profile of the user and changes nothing, and a write changes at most
the one variable of the one user that it is meant for.

Memory keeps the promise at every call. So does any store in front of which calls may be refused.
The fallback store keeps it as long as nobody else writes to its durable part.
-/

import Dialogue.Proofs.Profile.Transparency

namespace Dialogue

/-- The profiles that a store holds, and how its calls change them. -/
structure ProfileStore.Ledger (σ : Type) [ProfileStore σ] where
  /-- The states of the store that its own calls lead to. -/
  Sound : σ → Prop
  /-- The answers of a user that the store holds. -/
  stored : σ → UserId → Profile
  shown : ∀ {s : σ} {user : UserId} {profile : Profile}, Sound s →
    (ProfileStore.read s user).1 = .ok profile → profile = stored s user
  record : ∀ {s : σ} (user : User), Sound s →
    Sound (ProfileStore.record s user).2 ∧ stored (ProfileStore.record s user).2 = stored s
  read : ∀ {s : σ} (user : UserId), Sound s →
    Sound (ProfileStore.read s user).2 ∧ stored (ProfileStore.read s user).2 = stored s
  /-- A write may be refused, and then it changes nothing. -/
  write : ∀ {s : σ} (user : UserId) (key : String) (value : Value), Sound s →
    Sound (ProfileStore.write s user key value).2 ∧
      ∀ other, stored (ProfileStore.write s user key value).2 other = stored s other ∨
        other = user ∧
          stored (ProfileStore.write s user key value).2 other = (stored s other).insert key value

/-- Memory holds the answers that were stored last. -/
def MemoryStore.ledger : ProfileStore.Ledger MemoryStore where
  Sound _ := True
  stored := MemoryStore.answers
  shown := by
    intro m user profile _ answered
    exact (Except.ok.inj answered).symm
  record := by
    intro m user _
    refine ⟨trivial, ?_⟩
    funext other
    exact m.answers_countOne user.id other
  read := by
    intro m user _
    exact ⟨trivial, rfl⟩
  write := by
    intro m user key value _
    refine ⟨trivial, ?_⟩
    intro other
    show (m.setValue user key value).answers other = _ ∨
      _ ∧ (m.setValue user key value).answers other = _
    rw [m.answers_setValue]
    by_cases same : other = user
    · subst same
      exact .inr ⟨rfl, if_pos rfl⟩
    · exact .inl (if_neg same)

namespace Unreliable

variable {σ : Type} [ProfileStore σ]

/-- A store whose calls may be refused holds what the store behind it holds. -/
def ledger (inner : ProfileStore.Ledger σ) : ProfileStore.Ledger (Unreliable σ) where
  Sound u := inner.Sound u.inner
  stored u := inner.stored u.inner
  shown := by
    intro u user profile sound answered
    change (u.call .read (ProfileStore.read · user)).1 = .ok profile at answered
    cases admitted : u.admits .read with
    | false =>
        rw [call_of_not_admits _ admitted] at answered
        cases answered
    | true =>
        rw [call_of_admits _ admitted] at answered
        exact inner.shown sound answered
  record := by
    intro u user sound
    show inner.Sound (u.call .record (ProfileStore.record · user)).2.inner ∧
      inner.stored (u.call .record (ProfileStore.record · user)).2.inner = _
    cases admitted : u.admits .record with
    | false => rw [call_of_not_admits _ admitted]; exact ⟨sound, rfl⟩
    | true => rw [call_of_admits _ admitted]; exact inner.record user sound
  read := by
    intro u user sound
    show inner.Sound (u.call .read (ProfileStore.read · user)).2.inner ∧
      inner.stored (u.call .read (ProfileStore.read · user)).2.inner = _
    cases admitted : u.admits .read with
    | false => rw [call_of_not_admits _ admitted]; exact ⟨sound, rfl⟩
    | true => rw [call_of_admits _ admitted]; exact inner.read user sound
  write := by
    intro u user key value sound
    show inner.Sound (u.call .write (ProfileStore.write · user key value)).2.inner ∧
      ∀ other, inner.stored (u.call .write (ProfileStore.write · user key value)).2.inner other =
          _ ∨
        _ ∧ inner.stored (u.call .write (ProfileStore.write · user key value)).2.inner other = _
    cases admitted : u.admits .write with
    | false =>
        rw [call_of_not_admits _ admitted]
        exact ⟨sound, fun _ => .inl rfl⟩
    | true => rw [call_of_admits _ admitted]; exact inner.write user key value sound

end Unreliable

namespace FallbackStore

/-- The memory of a fallback store has the answers of the store that it mirrors. -/
theorem Mirrors.memory_answers {f : FallbackStore (Unreliable MemoryStore)} {m : MemoryStore}
    (mirrors : f.Mirrors m) (user : UserId) : f.memory.answers user = m.answers user := by
  apply Table.ext_get?
  intro key
  exact (mirrors.cells user key).memory

/-- A fallback store holds what is in its memory, if nobody else writes to its durable part. -/
def ledger : ProfileStore.Ledger (FallbackStore (Unreliable MemoryStore)) where
  Sound f := ∃ m, f.Mirrors m
  stored f := f.memory.answers
  shown := by
    rintro f user profile ⟨m, mirrors⟩ answered
    have read : (f.read user).1 = m.answers user := mirrors_simulation.shown user mirrors
    calc
      profile = (f.read user).1 := (Except.ok.inj answered).symm
      _ = m.answers user := read
      _ = f.memory.answers user := (mirrors.memory_answers user).symm
  record := by
    rintro f user ⟨m, mirrors⟩
    refine ⟨⟨_, mirrors_simulation.record user mirrors⟩, ?_⟩
    funext other
    exact f.memory.answers_countOne user.id other
  read := by
    rintro f user ⟨m, mirrors⟩
    have after : (f.read user).2.Mirrors m := mirrors_simulation.read user mirrors
    refine ⟨⟨m, after⟩, ?_⟩
    funext other
    exact (after.memory_answers other).trans (mirrors.memory_answers other).symm
  write := by
    rintro f user key value ⟨m, mirrors⟩
    have after : (f.write user key value).Mirrors (m.setValue user key value) :=
      mirrors_simulation.write user key value mirrors
    refine ⟨⟨_, after⟩, ?_⟩
    intro other
    show (f.write user key value).memory.answers other = f.memory.answers other ∨
      _ ∧ (f.write user key value).memory.answers other = (f.memory.answers other).insert key value
    rw [after.memory_answers, mirrors.memory_answers]
    exact (MemoryStore.ledger.write user key value trivial).2 other

end FallbackStore

end Dialogue
