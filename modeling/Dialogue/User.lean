/-
# Users

What is known of a user from the messenger: a number, and names that may be missing.
-/

namespace Dialogue

/-- The number of a user. -/
abbrev UserId := Nat

/-- A user as the messenger presents them. An empty name is still a name. -/
structure User where
  id : UserId
  username : Option String := none
  firstName : Option String := none
  lastName : Option String := none
deriving DecidableEq, Repr

end Dialogue
