/-
# Profiles that outlive a failing store

Every answer goes to memory first and then to a durable store. Reading prefers the
durable store and falls back to memory. An answer that the durable store did not take
is remembered as unsynced, and memory has the word on it until a later write of the
same variable succeeds. Errors of the durable store are never passed on.
-/

import Dialogue.Profile.Memory

namespace Dialogue

/-- Profiles in memory in front of a durable store, if there is one. -/
structure FallbackStore (σ : Type) where
  durable : Option σ := none
  memory : MemoryStore := {}
  /-- The variables of each user whose last write did not reach the durable store. -/
  unsynced : Table UserId (Table String Unit) := ∅

namespace FallbackStore

variable {σ : Type}

/-- Whether answers are kept beyond memory. -/
def isDurable (f : FallbackStore σ) : Bool := f.durable.isSome

/-- The unsynced variables of a user. -/
def behind (f : FallbackStore σ) (user : UserId) : Table String Unit :=
  (f.unsynced.get? user).getD ∅

/-- Note whether the last write of a variable reached the durable store. -/
def mark (f : FallbackStore σ) (user : UserId) (key : String) (reached : Bool) :
    Table UserId (Table String Unit) :=
  f.unsynced.insert user
    (if reached then (f.behind user).erase key else (f.behind user).insert key ())

/-- A profile with the values that memory has for some variables. -/
def overlay (memory profile : Profile) (keys : List String) : Profile :=
  keys.foldl (fun merged key =>
    match memory.get? key with
    | some value => merged.insert key value
    | none => merged) profile

/-- The answers of a user, after the durable store has given its own. -/
def merge (f : FallbackStore σ) (user : UserId) (profile : Profile) : Profile :=
  overlay (f.memory.answers user) profile (f.behind user).keys

/-- Note that a user has written. -/
def record [ProfileStore σ] (f : FallbackStore σ) (user : User) : FallbackStore σ :=
  { f with
    memory := f.memory.countOne user.id
    durable := f.durable.map fun d => (ProfileStore.record d user).2 }

/-- The answers of a user. -/
def read [ProfileStore σ] (f : FallbackStore σ) (user : UserId) : Profile × FallbackStore σ :=
  match f.durable with
  | none => (f.memory.answers user, f)
  | some d =>
      match ProfileStore.read d user with
      | (.ok profile, d) =>
          let merged := f.merge user profile
          (merged, { f with durable := some d, memory := f.memory.setAnswers user merged })
      | (.error _, d) => (f.memory.answers user, { f with durable := some d })

/-- Store one answer. -/
def write [ProfileStore σ] (f : FallbackStore σ) (user : UserId) (key : String) (value : Value) :
    FallbackStore σ :=
  let memory := f.memory.setValue user key value
  match f.durable with
  | none => { f with memory }
  | some d =>
      let (result, d) := ProfileStore.write d user key value
      { durable := some d, memory, unsynced := f.mark user key result.isOk }

instance [ProfileStore σ] : ProfileStore (FallbackStore σ) where
  record f user := (.ok (), f.record user)
  read f user := let (profile, f) := f.read user; (.ok profile, f)
  write f user key value := (.ok (), f.write user key value)

end FallbackStore

end Dialogue
