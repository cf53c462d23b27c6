/-
# Letters and digits by their ranges

The character classes of names and addresses are those of the Latin alphabet alone: a letter is one
of `a` to `z` or `A` to `Z`, a digit one of `0` to `9`. Letters with marks and the digits of other
scripts do not count.
-/

namespace Dialogue.Text

/-- A letter of the Latin alphabet. -/
def IsLetter (c : Char) : Prop := ('a' ≤ c ∧ c ≤ 'z') ∨ ('A' ≤ c ∧ c ≤ 'Z')

/-- A digit as it is written in Latin script. -/
def IsDigit (c : Char) : Prop := '0' ≤ c ∧ c ≤ '9'

instance (c : Char) : Decidable (IsLetter c) :=
  inferInstanceAs (Decidable (('a' ≤ c ∧ c ≤ 'z') ∨ ('A' ≤ c ∧ c ≤ 'Z')))

instance (c : Char) : Decidable (IsDigit c) := inferInstanceAs (Decidable ('0' ≤ c ∧ c ≤ '9'))

theorem isAlpha_iff {c : Char} : c.isAlpha = true ↔ IsLetter c := by
  delta Char.isAlpha Char.isUpper Char.isLower IsLetter
  simp only [Bool.or_eq_true, Bool.and_eq_true, decide_eq_true_eq, ge_iff_le, Char.le_def]
  exact or_comm

theorem isDigit_iff {c : Char} : c.isDigit = true ↔ IsDigit c := by
  delta Char.isDigit IsDigit
  simp only [Bool.and_eq_true, decide_eq_true_eq, ge_iff_le, Char.le_def]

theorem isAlphanum_iff {c : Char} : c.isAlphanum = true ↔ IsLetter c ∨ IsDigit c := by
  rw [← isAlpha_iff, ← isDigit_iff]
  delta Char.isAlphanum
  rw [Bool.or_eq_true]

end Dialogue.Text
