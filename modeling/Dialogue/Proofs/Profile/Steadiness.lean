/-
# Stores that read the same twice

A passage of several nodes asks for the answers of the user at every node. To the fallback store
this is no mere question: what the durable part gives is copied into memory. This module says that a
second read gives what the first gave all the same, and that an answer which was taken is there when
it is read.

Both need that the store does not change its mind about which calls to refuse. A store that refuses
every second call shows the answers of a user at one node and not at the next.
-/

import Dialogue.Proofs.Profile.Isolation

namespace Dialogue

/-- States of a store in which reads repeat themselves and show what was written. -/
structure ProfileStore.Steady {σ : Type} [ProfileStore σ] (P : σ → Prop) : Prop where
  read : ∀ {s : σ} (user : UserId), P s → P (ProfileStore.read s user).2
  /-- A second read gives what the first gave. -/
  again : ∀ {s : σ} (user : UserId), P s →
    (ProfileStore.read (ProfileStore.read s user).2 user).1 = (ProfileStore.read s user).1
  /-- An answer that was taken is there when it is read. -/
  written : ∀ {s : σ} {user : UserId} {key : String} {value : Value} {profile : Profile},
    P (ProfileStore.write s user key value).2 → (ProfileStore.write s user key value).1 = .ok () →
    (ProfileStore.read (ProfileStore.write s user key value).2 user).1 = .ok profile →
    profile.get? key = some value

theorem ProfileStore.Steady.shown_read {σ : Type} [ProfileStore σ] {P : σ → Prop}
    (steady : Steady P) {s : σ} (user : UserId) (holds : P s) :
    shown (ProfileStore.read s user).2 user = shown s user := by
  unfold shown
  rw [steady.again user holds]

/-- Memory never changes its mind. -/
theorem MemoryStore.steady : ProfileStore.Steady fun _ : MemoryStore => True where
  read _ _ := trivial
  again _ _ := rfl
  written := by
    intro m user key value profile _ _ reads
    obtain rfl : (m.setValue user key value).answers user = profile := Except.ok.inj reads
    rw [get?_answers_setValue, if_pos ⟨rfl, rfl⟩]

/-! ## Stores whose calls may be refused -/

namespace Unreliable

variable {σ α : Type}

/-- Which calls are refused depends on their kind alone. -/
def Fixed (u : Unreliable σ) : Prop := ∀ n n' kind, u.refuses n kind = u.refuses n' kind

/-- Switching some kinds of calls off fixes a store. -/
theorem fixed_refusing (u : Unreliable σ) (kinds : List StoreCall) : (u.refusing kinds).Fixed :=
  fun _ _ _ => rfl

theorem refuses_call (u : Unreliable σ) (kind : StoreCall) (run : σ → Except StorageError α × σ) :
    (u.call kind run).2.refuses = u.refuses := by
  cases admitted : u.admits kind with
  | true => rw [call_of_admits run admitted]
  | false => rw [call_of_not_admits run admitted]

variable {u : Unreliable σ}

theorem fixed_call_iff {kind : StoreCall} {run : σ → Except StorageError α × σ} :
    (u.call kind run).2.Fixed ↔ u.Fixed := by
  rw [Fixed, Fixed, refuses_call]

theorem Fixed.admits_call (fixed : u.Fixed) (kind other : StoreCall)
    (run : σ → Except StorageError α × σ) : (u.call kind run).2.admits other = u.admits other := by
  rw [admits, admits, refuses_call]
  rw [fixed (u.call kind run).2.calls u.calls]

/-- Refusing the same kinds of calls all the time keeps a store steady. -/
theorem steady [ProfileStore σ] {P : σ → Prop} (inner : ProfileStore.Steady P) :
    ProfileStore.Steady fun u : Unreliable σ => u.Fixed ∧ P u.inner where
  read := by
    rintro u user ⟨fixed, holds⟩
    refine ⟨fixed_call_iff.2 fixed, ?_⟩
    show P (u.call .read (ProfileStore.read · user)).2.inner
    cases admitted : u.admits .read with
    | true =>
        rw [call_of_admits _ admitted]
        exact inner.read user holds
    | false =>
        rw [call_of_not_admits _ admitted]
        exact holds
  again := by
    rintro u user ⟨fixed, holds⟩
    have still := fixed.admits_call .read .read (ProfileStore.read · user)
    show ((u.call .read (ProfileStore.read · user)).2.call .read (ProfileStore.read · user)).1 =
      (u.call .read (ProfileStore.read · user)).1
    cases admitted : u.admits .read with
    | true =>
        rw [call_of_admits _ (still.trans admitted), call_of_admits _ admitted]
        exact inner.again user holds
    | false => rw [call_of_not_admits _ (still.trans admitted), call_of_not_admits _ admitted]
  written := by
    rintro u user key value profile ⟨fixed, holds⟩ taken reads
    have still := (fixed_call_iff.1 fixed).admits_call .write .read
      (ProfileStore.write · user key value)
    change P (u.call .write (ProfileStore.write · user key value)).2.inner at holds
    change (u.call .write (ProfileStore.write · user key value)).1 = .ok () at taken
    change ((u.call .write (ProfileStore.write · user key value)).2.call .read
      (ProfileStore.read · user)).1 = .ok profile at reads
    cases admitted : u.admits .write with
    | false =>
        rw [call_of_not_admits _ admitted] at taken
        cases taken
    | true =>
        cases legible : u.admits .read with
        | false =>
            rw [call_of_not_admits _ (still.trans legible)] at reads
            cases reads
        | true =>
            rw [call_of_admits _ (still.trans legible), call_of_admits _ admitted] at reads
            rw [call_of_admits _ admitted] at taken holds
            exact inner.written holds taken reads

end Unreliable

/-! ## Fallback stores -/

namespace FallbackStore

variable {σ : Type}

/-- Merging again, with memory as it is after the first time, changes nothing. -/
theorem merge_setAnswers_merge (f : FallbackStore σ) (durable : Option σ) (user : UserId)
    (profile : Profile) :
    ({ f with
        durable
        memory := f.memory.setAnswers user (f.merge user profile) } : FallbackStore σ).merge user
          profile = f.merge user profile := by
  apply Table.ext_get?
  intro key
  rw [get?_merge]
  show (if (f.behind user).contains key then _ else _) = _
  rw [MemoryStore.answers_setAnswers, if_pos rfl, get?_merge]
  cases (f.behind user).contains key with
  | false => rfl
  | true =>
      rw [if_pos rfl, if_pos rfl, Option.or_assoc]
      cases profile.get? key with
      | none => rfl
      | some value => rfl

variable [ProfileStore σ]

/-- A durable store that is steady makes a steady fallback store, and so does none at all. -/
theorem steady {P : σ → Prop} (inner : ProfileStore.Steady P) :
    ProfileStore.Steady fun f : FallbackStore σ => ∀ d, f.durable = some d → P d where
  read := by
    intro f user holds
    show ∀ d, (f.read user).2.durable = some d → P d
    cases backed : f.durable with
    | none =>
        rw [read_of_none user backed]
        exact holds
    | some d =>
        have after := inner.read user (holds d backed)
        cases reads : (ProfileStore.read d user).1 with
        | ok profile =>
            rw [read_of_ok user backed reads]
            intro d' same
            cases same
            exact after
        | error e =>
            rw [read_of_error user backed reads]
            intro d' same
            cases same
            exact after
  again := by
    intro f user holds
    show Except.ok ((f.read user).2.read user).1 = Except.ok (f.read user).1
    congr 1
    cases backed : f.durable with
    | none => rw [read_of_none user backed, read_of_none user backed]
    | some d =>
        have same := inner.again user (holds d backed)
        cases reads : (ProfileStore.read d user).1 with
        | ok profile =>
            rw [read_of_ok user backed reads, read_of_ok user rfl (same.trans reads)]
            exact f.merge_setAnswers_merge _ user profile
        | error e =>
            rw [read_of_error user backed reads, read_of_error user rfl (same.trans reads)]
  written := by
    intro f user key value profile holds _ reads
    obtain rfl : ((f.write user key value).read user).1 = profile := Except.ok.inj reads
    have remembered : ((f.memory.setValue user key value).answers user).get? key = some value := by
      rw [MemoryStore.get?_answers_setValue, if_pos ⟨rfl, rfl⟩]
    cases backed : f.durable with
    | none =>
        have unbacked : (f.write user key value).durable = none := by
          rw [write_of_none user key value backed]
          exact backed
        rw [read_of_none user unbacked, write_of_none user key value backed]
        exact remembered
    | some d =>
        have after : P (ProfileStore.write d user key value).2 :=
          holds _ (congrArg FallbackStore.durable (write_of_some user key value backed))
        rw [write_of_some user key value backed]
        cases found : (ProfileStore.read (ProfileStore.write d user key value).2 user).1 with
        | error e =>
            rw [read_of_error user rfl found]
            exact remembered
        | ok profile =>
            rw [read_of_ok user rfl found, get?_merge, contains_behind_mark]
            -- Memory has the word exactly if the write did not get through.
            cases taken : (ProfileStore.write d user key value).1 with
            | ok _ =>
                rw [if_neg (by simp [Except.isOk, Except.toBool])]
                exact inner.written after taken found
            | error e =>
                rw [if_pos (by simp [Except.isOk, Except.toBool]), remembered]
                rfl

end FallbackStore

end Dialogue
