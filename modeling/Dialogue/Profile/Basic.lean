/-
# Profiles

The answers of a user, by the name of the variable that received them. Where profiles
are kept is a matter of the store: the operations are fixed here, and any of them may
fail. An operation also gives the store as it is afterwards, even if it failed.
-/

import Dialogue.Table
import Dialogue.User
import Dialogue.Value.Basic

namespace Dialogue

/-- The answers of a user. -/
abbrev Profile := Table String Value

/-- Why a store could not do as asked. -/
inductive StorageError where
  | database (reason : String)
  | invalidData (reason : String)
deriving DecidableEq, Repr

/-- The wording of an error. -/
def StorageError.message : StorageError → String
  | .database reason => "Database error: " ++ reason
  | .invalidData reason => "Invalid stored data: " ++ reason

/-- A place where profiles are kept. -/
class ProfileStore (σ : Type) where
  /-- Note that a user has written. -/
  record : σ → User → Except StorageError Unit × σ
  /-- The answers of a user; none for a user who is not known. -/
  read : σ → UserId → Except StorageError Profile × σ
  /-- Store one answer of a user and leave the others alone. -/
  write : σ → UserId → String → Value → Except StorageError Unit × σ

end Dialogue
