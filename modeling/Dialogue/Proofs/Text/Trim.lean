/-
# Trimmed texts

What is left of a text without the blanks at its ends: nothing exactly if there were only blanks,
and otherwise a text that is not trimmed any further. `Text.Trims` says what it is without the
trimming itself.
-/

import Mathlib.Data.List.DropRight
import Dialogue.Text.Blank

namespace Dialogue.Text

/-- What is left after the leading blanks does not begin with one. -/
theorem isBlank_head_trimStartChars {cs : List Char} {c : Char}
    (first : (trimStartChars cs).head? = some c) : isBlank c = false := by
  have stops := List.head?_dropWhile_not isBlank cs
  rw [trimStartChars] at first
  rw [first] at stops
  simpa using stops

theorem trimEndChars_prefix (cs : List Char) : trimEndChars cs <+: cs := by
  rw [trimEndChars, ← List.reverse_suffix, List.reverse_reverse]
  exact List.dropWhile_suffix _

theorem trimChars_eq_nil_iff {cs : List Char} : trimChars cs = [] ↔ ∀ c ∈ cs, isBlank c := by
  rw [trimChars, trimEndChars, List.reverse_eq_nil_iff, List.dropWhile_eq_nil_iff]
  constructor
  · intro blank
    rw [← List.dropWhile_eq_nil_iff]
    cases left : trimStartChars cs with
    | nil => exact left
    | cons first rest =>
        have stops : isBlank first = false := isBlank_head_trimStartChars (by rw [left]; rfl)
        have blankFirst := blank first (by simp [left])
        rw [stops] at blankFirst
        cases blankFirst
  · intro blank c listed
    rw [trimStartChars, List.dropWhile_eq_nil_iff.2 blank] at listed
    cases listed

theorem isBlankText_iff {s : String} : isBlankText s ↔ trim s = "" := by
  rw [isBlankText, trim, List.all_eq_true, ← trimChars_eq_nil_iff, String.ofList_eq_empty_iff]

/-- A trimmed text stays as it is. -/
theorem trimChars_trimChars (cs : List Char) : trimChars (trimChars cs) = trimChars cs := by
  have started : trimStartChars (trimChars cs) = trimChars cs := by
    cases left : trimChars cs with
    | nil => rfl
    | cons first rest =>
        have front : trimChars cs <+: trimStartChars cs := trimEndChars_prefix _
        obtain ⟨back, whole⟩ := front
        have head : (trimStartChars cs).head? = some first := by
          rw [← whole, left]
          rfl
        have stops : isBlank first = false := isBlank_head_trimStartChars head
        rw [trimStartChars, List.dropWhile_cons_of_neg (by simp [stops])]
  have ended : trimEndChars (trimChars cs) = trimChars cs := by
    rw [trimChars, trimEndChars, trimEndChars, List.reverse_reverse, List.dropWhile_idempotent]
  rw [trimChars, started, ended]

/-- A text is what is left of another without the blanks at its ends. -/
structure Trims (cs trimmed : List Char) : Prop where
  whole : ∃ front back, cs = front ++ trimmed ++ back ∧ (∀ c ∈ front, isBlank c = true) ∧
    ∀ c ∈ back, isBlank c = true
  head : ∀ c, trimmed.head? = some c → isBlank c = false
  last : ∀ c, trimmed.getLast? = some c → isBlank c = false

theorem dropWhile_isBlank_append {blanks cs : List Char} (blank : ∀ c ∈ blanks, isBlank c = true)
    (stops : ∀ c, cs.head? = some c → isBlank c = false) :
    (blanks ++ cs).dropWhile isBlank = cs := by
  rw [List.dropWhile_append_of_pos blank]
  cases cs with
  | nil => rfl
  | cons c cs => rw [List.dropWhile_cons_of_neg (by simp [stops c rfl])]

theorem trimEndChars_append {blanks cs : List Char} (blank : ∀ c ∈ blanks, isBlank c = true)
    (stops : ∀ c, cs.getLast? = some c → isBlank c = false) : trimEndChars (cs ++ blanks) = cs := by
  rw [trimEndChars, List.reverse_append, dropWhile_isBlank_append, List.reverse_reverse]
  · intro c listed
    exact blank c (List.mem_reverse.1 listed)
  · intro c first
    exact stops c (by rw [← List.head?_reverse, first])

/-- What is cut off at the end is blank. -/
theorem exists_trimEndChars_append (cs : List Char) :
    ∃ back, cs = trimEndChars cs ++ back ∧ ∀ c ∈ back, isBlank c = true := by
  refine ⟨(cs.reverse.takeWhile isBlank).reverse, ?_, ?_⟩
  · rw [trimEndChars, ← List.reverse_append, List.takeWhile_append_dropWhile, List.reverse_reverse]
  · intro c listed
    exact List.all_eq_true.1 List.all_takeWhile c (List.mem_reverse.1 listed)

theorem trims_trimChars (cs : List Char) : Trims cs (trimChars cs) where
  whole := by
    obtain ⟨back, divided, blank⟩ := exists_trimEndChars_append (trimStartChars cs)
    refine ⟨cs.takeWhile isBlank, back, ?_, List.all_eq_true.1 List.all_takeWhile, blank⟩
    rw [trimChars, List.append_assoc, ← divided, trimStartChars, List.takeWhile_append_dropWhile]
  head := by
    intro c first
    obtain ⟨back, whole⟩ := trimEndChars_prefix (trimStartChars cs)
    have leads : (trimStartChars cs).head? = some c := by
      rw [← whole, List.head?_append]
      exact congrArg (Option.or · back.head?) first
    exact isBlank_head_trimStartChars leads
  last := by
    intro c final
    have stops := List.head?_dropWhile_not isBlank (trimStartChars cs).reverse
    rw [trimChars, trimEndChars, List.getLast?_reverse] at final
    rw [final] at stops
    simpa using stops

/-- What is left of a text is determined. -/
theorem Trims.eq {cs trimmed : List Char} (trims : Trims cs trimmed) : trimChars cs = trimmed := by
  obtain ⟨front, back, rfl, blankFront, blankBack⟩ := trims.whole
  cases trimmed with
  | nil =>
      rw [trimChars_eq_nil_iff]
      intro c listed
      rw [List.append_nil] at listed
      rcases List.mem_append.1 listed with here | there
      · exact blankFront c here
      · exact blankBack c there
  | cons first rest =>
      have started : trimStartChars (front ++ first :: rest ++ back) = first :: rest ++ back := by
        rw [trimStartChars, List.append_assoc]
        exact dropWhile_isBlank_append blankFront trims.head
      rw [trimChars, started, trimEndChars_append blankBack trims.last]

end Dialogue.Text
