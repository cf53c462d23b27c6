/-
# A database that cannot be reached

A database keeps profiles and message records. It holds user ids of profiles as signed
numbers, so an id that does not fit is refused before anything is asked. What follows needs
a connection, and here the pool of connections is closed: every question ends in the same
error.
-/

import Dialogue.MessageRecord
import Dialogue.Number.Integer
import Dialogue.Profile.Basic

namespace Dialogue

/-- A database whose pool of connections is closed. -/
structure ClosedDatabase where
deriving DecidableEq, Repr

namespace ClosedDatabase

/-- What the observer of messages calls itself. -/
def name : String := "postgres"

/-- The error of every question to a closed pool. -/
def closed : StorageError := .database "attempted to acquire a connection on a closed pool"

/-- Ask about the profile of a user. -/
def ask {α : Type} (db : ClosedDatabase) (user : UserId) : Except StorageError α × ClosedDatabase :=
  if user < Number.signed64 then (.error closed, db)
  else (.error (.invalidData s!"user id {user} out of range"), db)

instance : ProfileStore ClosedDatabase where
  record db user := db.ask user.id
  read db user := db.ask user
  write db user _ _ := db.ask user

/-- Keep a message record. Here the id of the user is text, so any will do. -/
def observe (_ : ClosedDatabase) (_ : MessageRecord) : Except StorageError Unit := .error closed

end ClosedDatabase

end Dialogue
