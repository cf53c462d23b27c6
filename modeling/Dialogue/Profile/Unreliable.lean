/-
# Unreliable stores

A store whose calls may be refused. Which are refused is a function of the number of the
call and of its kind, so every pattern of failures is some unreliable store. A refused
call changes nothing.
-/

import Dialogue.Profile.Basic

namespace Dialogue

/-- The kinds of calls to a store. -/
inductive StoreCall where
  | record
  | read
  | write
deriving DecidableEq, Repr

/-- The error of a refused call. -/
def StoreCall.refusal : StoreCall → StorageError
  | .record => .database "record refused"
  | .read => .database "read refused"
  | .write => .database "write refused"

/-- A store whose calls may be refused. -/
structure Unreliable (σ : Type) where
  inner : σ
  /-- Which calls are refused, by number and kind. -/
  refuses : Nat → StoreCall → Bool := fun _ _ => false
  /-- The number of calls made so far. -/
  calls : Nat := 0

namespace Unreliable

variable {σ : Type}

/-- Make a call unless it is refused. -/
def call {α : Type} (u : Unreliable σ) (kind : StoreCall)
    (run : σ → Except StorageError α × σ) : Except StorageError α × Unreliable σ :=
  if u.refuses u.calls kind then (.error kind.refusal, { u with calls := u.calls + 1 })
  else
    let (result, inner) := run u.inner
    (result, { u with inner, calls := u.calls + 1 })

/-- From now on refuse exactly the calls of some kinds. -/
def refusing (u : Unreliable σ) (kinds : List StoreCall) : Unreliable σ :=
  { u with refuses := fun _ kind => kind ∈ kinds }

instance [ProfileStore σ] : ProfileStore (Unreliable σ) where
  record u user := u.call .record (ProfileStore.record · user)
  read u user := u.call .read (ProfileStore.read · user)
  write u user key value := u.call .write (ProfileStore.write · user key value)

end Unreliable

end Dialogue
