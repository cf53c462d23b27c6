/-
# Rows

The buttons of a keyboard are laid out in rows of a fixed number of columns. The places
of a row are set aside before it is filled, so the number of columns is bounded by what
can be addressed at all, whatever the number of buttons.
-/

namespace Dialogue.Rows

/-- The number of bytes that can be addressed at once. -/
def addressable : Nat := Nat.pow 2 63 - 1

/-- Whether a row of `columns` places of `bytes` bytes each can be set aside. -/
def fits (bytes columns : Nat) : Bool := columns * bytes ≤ addressable

/-- Cut a list into rows of `columns` items. `row` holds the first items of the row that is being
filled. -/
def cutFrom {α : Type u} (columns : Nat) : List α → List α → List (List α)
  | [], [] => []
  | row, [] => [row]
  | row, item :: items =>
      if (row ++ [item]).length = columns then (row ++ [item]) :: cutFrom columns [] items
      else cutFrom columns (row ++ [item]) items

/-- The number of columns of a layout: at least one. -/
def width (columns : Nat) : Nat := max columns 1

/-- Cut a list into rows. All rows but the last are full. -/
def cut {α : Type u} (columns : Nat) (items : List α) : List (List α) :=
  cutFrom (width columns) [] items

/-- The rows of a layout whose items take `bytes` bytes each; none if a row cannot be set aside. -/
def layOut? {α : Type u} (bytes columns : Nat) (items : List α) : Option (List (List α)) :=
  if fits bytes (width columns) then some (cut columns items) else none

/-- Cutting loses nothing and keeps the order. -/
theorem flatten_cutFrom {α : Type u} (columns : Nat) (row items : List α) :
    (cutFrom columns row items).flatten = row ++ items := by
  induction items generalizing row with
  | nil => cases row <;> simp [cutFrom]
  | cons item items ih =>
    rw [cutFrom]
    split
    · simp [ih]
    · simp [ih]

/-- Cutting loses nothing and keeps the order. -/
theorem flatten_cut {α : Type u} (columns : Nat) (items : List α) :
    (cut columns items).flatten = items := by
  rw [cut, flatten_cutFrom, List.nil_append]

end Dialogue.Rows
