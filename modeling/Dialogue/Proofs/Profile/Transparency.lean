/-
# Failures of the durable store are invisible

A conversation over a fallback store is compared with the same conversation over memory alone. The
durable store begins empty, only the fallback store writes to it, and it may refuse any calls at
all. Nothing that can be seen of the two differs at any point.

The cells carry the argument. A cell agrees with the value that memory alone would have if its own
memory has that value and its durable part has it too, unless the cell is behind, and then there is
a value. Each call keeps that, whether it is refused or not; so the two stores simulate each other.
-/

import Dialogue.Proofs.Conversation.Simulation
import Dialogue.Proofs.Profile.Cell

namespace Dialogue

namespace Cell

/-- A cell stands for a value: a read gives it, whether or not the durable store is reached. -/
structure Agrees (c : Cell) (value : Option Value) : Prop where
  memory : c.memory = value
  synced : c.behind = false → c.durable = value
  present : c.behind = true → value.isSome

namespace Agrees

variable {c : Cell} {value : Option Value}

theorem answer (agrees : c.Agrees value) (reached : Bool) : c.answer reached = value := by
  rw [Cell.answer]
  cases reached with
  | false => exact agrees.memory
  | true =>
      rw [if_pos rfl]
      cases behind : c.behind with
      | false => exact agrees.synced behind
      | true =>
          obtain ⟨known, rfl⟩ := Option.isSome_iff_exists.1 (agrees.present behind)
          rw [if_pos rfl, agrees.memory]
          rfl

theorem read (agrees : c.Agrees value) (reached : Bool) : (c.read reached).Agrees value where
  memory := agrees.answer reached
  synced := agrees.synced
  present := agrees.present

/-- After a write the cell stands for the value written, whatever it stood for before. -/
theorem write (c : Cell) (value : Value) (reached : Bool) :
    (c.write value reached).Agrees (some value) where
  memory := rfl
  synced := by
    intro synced
    cases reached with
    | true => rfl
    | false => cases synced
  present := by
    intro _
    rfl

end Agrees

end Cell

namespace FallbackStore

/-- Every cell of a fallback store stands for the answer in another store. -/
structure Mirrors (f : FallbackStore (Unreliable MemoryStore)) (m : MemoryStore) : Prop where
  backed : f.durable.isSome
  cells : ∀ user key, (f.cell user key).Agrees ((m.answers user).get? key)

/-- A fallback store and memory alone cannot be told apart. -/
theorem mirrors_simulation : ProfileStore.Simulation Mirrors where
  shown := by
    intro f m user mirrors
    show (f.read user).1 = m.answers user
    apply Table.ext_get?
    intro key
    rw [get?_read mirrors.backed]
    exact (mirrors.cells user key).answer _
  record := by
    intro f m user mirrors
    refine ⟨isSome_durable_record mirrors.backed user, ?_⟩
    intro other key
    show ((f.record user).cell other key).Agrees (((m.countOne user.id).answers other).get? key)
    rw [cell_record, m.answers_countOne]
    exact mirrors.cells other key
  read := by
    intro f m user mirrors
    refine ⟨isSome_durable_read mirrors.backed user, ?_⟩
    intro other key
    show ((f.read user).2.cell other key).Agrees ((m.answers other).get? key)
    rw [cell_read mirrors.backed]
    split
    · exact (mirrors.cells other key).read _
    · exact mirrors.cells other key
  write := by
    intro f m user key value mirrors
    refine ⟨isSome_durable_write mirrors.backed user key value, ?_⟩
    intro other key'
    show ((f.write user key value).cell other key').Agrees
      (((m.setValue user key value).answers other).get? key')
    rw [cell_write mirrors.backed, m.get?_answers_setValue]
    split
    · exact .write _ value _
    · exact mirrors.cells other key'

/-- A fallback store in front of an empty durable store that refuses some calls. -/
def overEmpty (refuses : Nat → StoreCall → Bool) : FallbackStore (Unreliable MemoryStore) where
  durable := some { inner := {}, refuses }

theorem overEmpty_mirrors (refuses : Nat → StoreCall → Bool) :
    (overEmpty refuses).Mirrors {} where
  backed := rfl
  cells := by
    intro user key
    refine ⟨rfl, ?_, ?_⟩
    · intro _
      rfl
    · intro behind
      cases behind

/-- **Failures are invisible.** Whatever calls the durable store refuses, a conversation over a
fallback store looks at every step as it would over memory alone: the outcome, the sessions and the
answers of all users. -/
theorem trace_overEmpty (flow : Flow) (lifetime : Int) (refuses : Nat → StoreCall → Bool)
    (happenings : List Happening) :
    (Conversation.begin lifetime (overEmpty refuses)).trace flow happenings =
      (Conversation.begin lifetime ({} : MemoryStore)).trace flow happenings := by
  apply Conversation.Alike.trace mirrors_simulation
  exact ⟨rfl, overEmpty_mirrors refuses⟩

end FallbackStore

end Dialogue
