/-
# Sessions

Where a user stands in the conversation: the node shown last, the prompt that waits for
an answer, and the selections under way. Sessions are kept for a while after they were
last saved. Time is always an argument, so that a store has no clock of its own.
-/

import Dialogue.Flow.Basic
import Dialogue.Table
import Dialogue.User

namespace Dialogue

/-- A moment, in milliseconds from the beginning of the year 1970. -/
abbrev Time := Int

/-- The first moment that can be stated: the beginning of the year 262144 before our era. -/
def firstTime : Time := -8334601228800000

/-- The last moment that can be stated: the end of the year 262142. -/
def lastTime : Time := 8210266876799999

/-- A prompt that waits for an answer. -/
structure Pending where
  node : NodeId
  prompt : Prompt
  /-- The node to enter after the answer. -/
  next : Option NodeId := none
deriving DecidableEq, Repr

/-- Where a user stands in the conversation. -/
structure Session where
  current : Option NodeId := none
  /-- At most one prompt waits at a time. -/
  pending : Option Pending := none
  /-- The values selected so far, for each selection under way. -/
  selections : Table NodeId (List String) := ∅
deriving DecidableEq

namespace Session

/-- The session of a user who has not said anything yet. -/
def fresh : Session := {}

/-- The values selected so far at a node. -/
def selected (s : Session) (node : NodeId) : List String := (s.selections.get? node).getD []

/-- The session with other values selected at a node. -/
def select (s : Session) (node : NodeId) (values : List String) : Session :=
  { s with selections := s.selections.insert node values }

/-- The session without a selection at a node. -/
def forget (s : Session) (node : NodeId) : Session :=
  { s with selections := s.selections.erase node }

end Session

/-- The sessions of all users, each with the time it was saved. -/
structure SessionStore where
  /-- How long a session is kept. -/
  lifetime : Int
  entries : Table UserId (Session × Time) := ∅

namespace SessionStore

/-- A number of minutes in milliseconds. -/
def minutes (n : Int) : Int := n * 60000

/-- How long sessions are kept unless told otherwise: a day. -/
def defaultLifetime : Int := minutes (24 * 60)

/-- The longest lifetime that can be stated. -/
def longestLifetime : Int := Int.pow 2 63 - 1

/-- A lifetime of some minutes, if it can be stated. -/
def lifetimeOfMinutes? (n : Int) : Option Int :=
  if -longestLifetime ≤ minutes n ∧ minutes n ≤ longestLifetime then some (minutes n) else none

/-- The moment some minutes after another, if both the distance and the moment can be stated. -/
def timeAfter? (now : Time) (n : Int) : Option Time :=
  ((lifetimeOfMinutes? n).map (now + ·)).filter fun t => firstTime ≤ t && t ≤ lastTime

/-- Whether a session saved at one time is over at another. -/
def isExpired (store : SessionStore) (saved now : Time) : Bool := store.lifetime ≤ now - saved

/-- The session of a user. One that is over is dropped, and a fresh one takes its place. -/
def get (store : SessionStore) (user : UserId) (now : Time) : Session × SessionStore :=
  match store.entries.get? user with
  | some (session, saved) =>
      if store.isExpired saved now then
        (.fresh, { store with entries := store.entries.erase user })
      else (session, store)
  | none => (.fresh, store)

/-- Save the session of a user. -/
def save (store : SessionStore) (user : UserId) (session : Session) (now : Time) : SessionStore :=
  { store with entries := store.entries.insert user (session, now) }

/-- Drop the session of a user. -/
def reset (store : SessionStore) (user : UserId) : SessionStore :=
  { store with entries := store.entries.erase user }

/-- Drop all sessions that are over at a time, and count them. -/
def purge (store : SessionStore) (now : Time) : Nat × SessionStore :=
  let kept := store.entries.filter fun _ entry => !store.isExpired entry.2 now
  (store.entries.size - kept.size, { store with entries := kept })

end SessionStore

end Dialogue
