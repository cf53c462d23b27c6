/-
# Profiles in memory

The simplest store: all answers of all users, and how often each has written. It never
fails.
-/

import Dialogue.Profile.Basic

namespace Dialogue

/-- What is kept of one user. -/
structure MemoryRecord where
  answers : Profile := ∅
  /-- How often the user has written. -/
  interactions : Nat := 0
deriving DecidableEq

/-- Profiles in memory. -/
structure MemoryStore where
  records : Table UserId MemoryRecord := ∅
deriving DecidableEq

namespace MemoryStore

/-- What is kept of a user. -/
def get (m : MemoryStore) (user : UserId) : MemoryRecord := (m.records.get? user).getD {}

/-- Keep something else of a user. -/
def set (m : MemoryStore) (user : UserId) (r : MemoryRecord) : MemoryStore :=
  ⟨m.records.insert user r⟩

/-- The answers of a user. -/
def answers (m : MemoryStore) (user : UserId) : Profile := (m.get user).answers

/-- How often a user has written. -/
def interactions (m : MemoryStore) (user : UserId) : Nat := (m.get user).interactions

/-- Replace all answers of a user. -/
def setAnswers (m : MemoryStore) (user : UserId) (answers : Profile) : MemoryStore :=
  m.set user { m.get user with answers }

/-- Store one answer. -/
def setValue (m : MemoryStore) (user : UserId) (key : String) (value : Value) : MemoryStore :=
  m.setAnswers user ((m.answers user).insert key value)

/-- Note that a user has written. -/
def countOne (m : MemoryStore) (user : UserId) : MemoryStore :=
  m.set user { m.get user with interactions := m.interactions user + 1 }

theorem get_set (m : MemoryStore) (user other : UserId) (r : MemoryRecord) :
    (m.set user r).get other = if other = user then r else m.get other := by
  simp only [get, set, Table.get?_insert]
  split <;> simp_all

theorem answers_setAnswers (m : MemoryStore) (user other : UserId) (answers : Profile) :
    (m.setAnswers user answers).answers other =
      if other = user then answers else m.answers other := by
  simp only [MemoryStore.answers, setAnswers, get_set]
  split <;> rfl

theorem answers_setValue (m : MemoryStore) (user other : UserId) (key : String) (value : Value) :
    (m.setValue user key value).answers other =
      if other = user then (m.answers user).insert key value else m.answers other := by
  simp only [answers, setValue, setAnswers, get_set]
  split <;> rfl

/-- A write changes one answer of one user. -/
theorem get?_answers_setValue (m : MemoryStore) (user other : UserId) (key other' : String)
    (value : Value) :
    ((m.setValue user key value).answers other).get? other' =
      if other = user ∧ other' = key then some value else (m.answers other).get? other' := by
  rw [answers_setValue]
  by_cases same : other = user
  · subst same
    rw [if_pos rfl, Table.get?_insert]
    simp
  · rw [if_neg same, if_neg fun both => same both.1]

theorem answers_countOne (m : MemoryStore) (user other : UserId) :
    (m.countOne user).answers other = m.answers other := by
  simp only [answers, countOne, get_set]
  split
  · next h => rw [h]
  · rfl

instance : ProfileStore MemoryStore where
  record m user := (.ok (), m.countOne user.id)
  read m user := (.ok (m.answers user), m)
  write m user key value := (.ok (), m.setValue user key value)

end MemoryStore

end Dialogue
