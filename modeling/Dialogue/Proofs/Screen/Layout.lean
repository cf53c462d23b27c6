/-
# The rows of a keyboard

A keyboard is laid out exactly if one of its rows can be set aside. Then its rows hold the items in
their order, none is empty, and all but the last are full, so their number is that of the items
divided by that of the columns, rounded up.

Rows are filled one item at a time. What is kept on the way is that the row being filled has a free
place: it is closed when the last one is taken, and the next row begins without items. What has been
begun when the items end is the last row.
-/

import Dialogue.Rows
import Mathlib.Algebra.Order.Floor.Div

namespace Dialogue.Rows

variable {α : Type u} {bytes columns : Nat} {items : List α} {rows : List (List α)}

/-! ## Room for a row -/

theorem width_pos (columns : Nat) : 0 < width columns :=
  Nat.lt_of_lt_of_le Nat.one_pos (Nat.le_max_right columns 1)

/-- A row is set aside for at least one place, and one place can always be addressed. -/
theorem fits_width_eq_false_iff (small : bytes ≤ addressable) :
    fits bytes (width columns) = false ↔ addressable < columns * bytes := by
  rw [fits, decide_eq_false_iff_not, Nat.not_le, width]
  cases columns with
  | zero =>
      constructor
      · intro wide
        rw [Nat.zero_max, Nat.one_mul] at wide
        omega
      · intro wide
        rw [Nat.zero_mul] at wide
        omega
  | succ columns => rw [Nat.max_eq_left (Nat.succ_pos columns)]

theorem layOut?_of_fits (room : fits bytes (width columns)) (items : List α) :
    layOut? bytes columns items = some (cut columns items) := by
  rw [layOut?, if_pos room]

theorem isSome_layOut? (bytes columns : Nat) (items : List α) :
    (layOut? bytes columns items).isSome = fits bytes (width columns) := by
  rw [layOut?]
  cases fits bytes (width columns) with
  | false => rfl
  | true => rfl

theorem flatten_of_layOut? (laid : layOut? bytes columns items = some rows) :
    rows.flatten = items := by
  have room : fits bytes (width columns) = true := by
    rw [← isSome_layOut? bytes columns items, laid, Option.isSome_some]
  rw [layOut?_of_fits room] at laid
  rw [← Option.some.inj laid, flatten_cut]

/-! ## Filling rows -/

/-- What is written on buttons does not matter to the rows. -/
theorem map_cutFrom {β : Type v} (f : α → β) (columns : Nat) (row items : List α) :
    (cutFrom columns row items).map (·.map f) = cutFrom columns (row.map f) (items.map f) := by
  induction items generalizing row with
  | nil =>
      cases row with
      | nil => rfl
      | cons item row => rfl
  | cons item items ih =>
      have grown : (row ++ [item]).map f = row.map f ++ [f item] := List.map_append
      rw [List.map_cons, cutFrom, cutFrom, ← grown, List.length_map]
      split
      · rw [List.map_cons, ih]
        rfl
      · exact ih _

/-- Rows of `columns` places, none of them left free before the last row. -/
structure Compact (columns : Nat) (rows : List (List α)) : Prop where
  nonempty : ∀ row ∈ rows, row ≠ []
  /-- All rows but the last are full. -/
  full : ∀ row ∈ rows.dropLast, row.length = columns
  last : ∀ row ∈ rows.getLast?, row.length ≤ columns

namespace Compact

theorem nil (columns : Nat) : Compact columns ([] : List (List α)) where
  nonempty := by simp
  full := by simp
  last := by simp

/-- What is left over is a row of its own. -/
theorem remainder {row : List α} (started : row ≠ []) (bounded : row.length ≤ columns) :
    Compact columns [row] where
  nonempty := by simpa using started
  full := by simp
  last := by simpa using bounded

/-- A full row may be put in front. -/
theorem cons {row : List α} (started : row ≠ []) (closed : row.length = columns)
    (compact : Compact columns rows) : Compact columns (row :: rows) where
  nonempty := List.forall_mem_cons.2 ⟨started, compact.nonempty⟩
  full := by
    cases rows with
    | nil => simp
    | cons next rest =>
        rw [List.dropLast_cons_cons]
        exact List.forall_mem_cons.2 ⟨closed, compact.full⟩
  last := by
    cases rows with
    | nil => simpa using closed.le
    | cons next rest =>
        rw [List.getLast?_cons_cons]
        exact compact.last

/-- The items decide how many rows there are. -/
theorem length_eq_ceilDiv (compact : Compact columns rows) :
    rows.length = rows.flatten.length ⌈/⌉ columns := by
  obtain rfl | ⟨front, last, rfl⟩ := rows.eq_nil_or_concat'
  · rw [List.flatten_nil, List.length_nil, List.length_nil, zero_ceilDiv]
  · have full : ∀ row ∈ front, row.length = columns := by simpa using compact.full
    have filled : front.flatten.length = front.length * columns := by
      rw [List.length_flatten, List.map_congr_left full, List.map_const', List.sum_replicate_nat]
    have started : 0 < last.length := List.length_pos_iff.2 (compact.nonempty last (by simp))
    have bounded : last.length ≤ columns := compact.last last (by simp)
    rw [List.flatten_concat, List.length_append, List.length_append, List.length_singleton, filled,
      Nat.ceilDiv_eq_add_pred_div]
    symm
    apply Nat.div_eq_of_lt_le
    · rw [Nat.add_mul, Nat.one_mul]
      omega
    · rw [Nat.add_mul, Nat.add_mul, Nat.one_mul]
      omega

end Compact

theorem compact_cutFrom {row : List α} (free : row.length < columns) (items : List α) :
    Compact columns (cutFrom columns row items) := by
  -- The row that is being filled has a free place at every step.
  induction items generalizing row with
  | nil =>
      cases row with
      | nil => exact .nil columns
      | cons item row => exact .remainder (List.cons_ne_nil item row) free.le
  | cons item items ih =>
      rw [cutFrom]
      split
      · next closed =>
          have empty : ([] : List α).length < columns := Nat.zero_lt_of_lt free
          exact .cons (by simp) closed (ih empty)
      · next unfilled =>
          refine ih (Nat.lt_of_le_of_ne ?_ unfilled)
          rw [List.length_append, List.length_singleton]
          exact free

theorem compact_cut (columns : Nat) (items : List α) :
    Compact (width columns) (cut columns items) := by
  have free : ([] : List α).length < width columns := width_pos columns
  exact compact_cutFrom free items

theorem length_cut (columns : Nat) (items : List α) :
    (cut columns items).length = items.length ⌈/⌉ width columns := by
  rw [(compact_cut columns items).length_eq_ceilDiv, flatten_cut]

/-- **Layouts.** If a row can be set aside then the items are laid out. The rows hold the items in
their order, none is empty, all but the last are full, and the last has at most as many items as a
full one. So there are as many rows as the items need. Without columns the items are laid out in one
column. -/
theorem layOut?_compact (room : fits bytes (width columns)) (items : List α) :
    ∃ rows, layOut? bytes columns items = some rows ∧ rows.flatten = items ∧
      Compact (max columns 1) rows ∧ rows.length = items.length ⌈/⌉ max columns 1 := by
  refine ⟨cut columns items, layOut?_of_fits room items, flatten_cut columns items, ?_, ?_⟩
  · exact compact_cut columns items
  · exact length_cut columns items

theorem layOut?_drinks : fits 24 (width 2) ∧
    ∃ rows, layOut? 24 2 ["tea", "milk", "cocoa", "water", "juice"] = some rows ∧
      rows.flatten = ["tea", "milk", "cocoa", "water", "juice"] ∧
      Compact 2 rows ∧ rows.length = 3 :=
  ⟨by decide, layOut?_compact (by decide) _⟩

example : layOut? 24 0 ["tea", "milk"] = some [["tea"], ["milk"]] := by decide

end Dialogue.Rows
