/-
# Splitting at a separator

A text is split at the first, at the last or at every occurrence of a character. The
character itself belongs to no part. Without it there is no first and no last part, but
one part in all.
-/

namespace Dialogue.Text

/-- The parts before and after the first `sep`. -/
def splitFirst? (sep : Char) : List Char → Option (List Char × List Char)
  | [] => none
  | c :: cs =>
      if c = sep then some ([], cs) else (splitFirst? sep cs).map fun (a, b) => (c :: a, b)

/-- The parts before and after the last `sep`. -/
def splitLast? (sep : Char) : List Char → Option (List Char × List Char)
  | [] => none
  | c :: cs =>
      match splitLast? sep cs with
      | some (a, b) => some (c :: a, b)
      | none => if c = sep then some ([], cs) else none

/-- Split a text at each character that satisfies `isSep`. There is always at least one part. -/
def splitAll (isSep : Char → Bool) : List Char → List (List Char)
  | [] => [[]]
  | c :: cs =>
      if isSep c then [] :: splitAll isSep cs
      else
        match splitAll isSep cs with
        | part :: parts => (c :: part) :: parts
        | [] => [[c]]

/-- Join parts with a character between them. -/
def joinWith (sep : Char) : List (List Char) → List Char
  | [] => []
  | [part] => part
  | part :: parts => part ++ sep :: joinWith sep parts

theorem splitFirst?_eq_some_iff {sep : Char} {cs a b : List Char} :
    splitFirst? sep cs = some (a, b) ↔ cs = a ++ sep :: b ∧ sep ∉ a := by
  induction cs generalizing a with
  | nil => simp [splitFirst?]
  | cons c cs ih =>
    by_cases h : c = sep
    · subst h
      cases a with
      | nil => simp [splitFirst?, eq_comm]
      | cons x a => simp only [splitFirst?]; grind
    · cases a with
      | nil => simp [splitFirst?, h]
      | cons x a =>
        simp only [splitFirst?, h, if_false, Option.map_eq_some_iff, Prod.exists]
        constructor
        · rintro ⟨a', b', h', heq⟩
          grind
        · rintro ⟨heq, hmem⟩
          refine ⟨a, b, ih.2 ?_, ?_⟩ <;> grind

theorem splitFirst?_eq_none_iff {sep : Char} {cs : List Char} :
    splitFirst? sep cs = none ↔ sep ∉ cs := by
  induction cs with
  | nil => simp [splitFirst?]
  | cons c cs ih =>
    by_cases h : c = sep
    · simp [splitFirst?, h]
    · simp [splitFirst?, h, ih, Ne.symm h]

theorem splitLast?_eq_none_iff {sep : Char} {cs : List Char} :
    splitLast? sep cs = none ↔ sep ∉ cs := by
  induction cs with
  | nil => simp [splitLast?]
  | cons c cs ih => grind [splitLast?]

theorem splitLast?_eq_some_iff {sep : Char} {cs a b : List Char} :
    splitLast? sep cs = some (a, b) ↔ cs = a ++ sep :: b ∧ sep ∉ b := by
  induction cs generalizing a b with
  | nil => simp [splitLast?]
  | cons c cs ih =>
    cases hs : splitLast? sep cs with
    | none =>
      have hn := splitLast?_eq_none_iff.1 hs
      cases a <;> grind [splitLast?]
    | some p =>
      obtain ⟨a', b'⟩ := p
      have hp := ih.1 hs
      cases a with
      | nil => grind [splitLast?]
      | cons x a =>
        have hiff := @ih a b
        grind [splitLast?]

/-- A part without a separator is split off in front. -/
theorem splitAll_append_cons {isSep : Char → Bool} {part rest : List Char} {sep : Char}
    (whole : ∀ c ∈ part, isSep c = false) (divides : isSep sep = true) :
    splitAll isSep (part ++ sep :: rest) = part :: splitAll isSep rest := by
  induction part with
  | nil =>
      rw [List.nil_append, splitAll, if_pos divides]
  | cons first part ih =>
      have kept : isSep first = false := whole first List.mem_cons_self
      rw [List.cons_append, splitAll, if_neg (by simp [kept]),
        ih fun c listed => whole c (List.mem_cons_of_mem _ listed)]

theorem splitAll_of_whole {isSep : Char → Bool} {part : List Char}
    (whole : ∀ c ∈ part, isSep c = false) : splitAll isSep part = [part] := by
  induction part with
  | nil => rfl
  | cons first part ih =>
      have kept : isSep first = false := whole first List.mem_cons_self
      rw [splitAll, if_neg (by simp [kept]),
        ih fun c listed => whole c (List.mem_cons_of_mem _ listed)]

/-- The first part of a text that is split begins as the text does, up to the first separator. -/
theorem head?_splitAll (isSep : Char → Bool) (cs : List Char) :
    (splitAll isSep cs).head? = some (cs.takeWhile (!isSep ·)) := by
  induction cs with
  | nil => rfl
  | cons c cs ih =>
      rw [splitAll]
      by_cases sep : isSep c
      · simp [sep]
      · cases split : splitAll isSep cs with
        | nil => rw [split] at ih; cases ih
        | cons part parts =>
            rw [split] at ih
            have first : part = cs.takeWhile (!isSep ·) := Option.some.inj ih
            simp [sep, first]

/-- The parts of a text that is split at a character give back the text. -/
theorem joinWith_splitAll (sep : Char) (cs : List Char) :
    joinWith sep (splitAll (· = sep) cs) = cs := by
  induction cs with
  | nil => rfl
  | cons c cs ih =>
      rw [splitAll]
      cases split : splitAll (· = sep) cs with
      | nil =>
          have first := head?_splitAll (· = sep) cs
          rw [split] at first
          cases first
      | cons part parts =>
          rw [split] at ih
          by_cases divides : c = sep
          · rw [if_pos (decide_eq_true divides), joinWith, ih, divides]
            · rfl
            · simp
          · rw [if_neg (by simp [divides])]
            cases parts with
            | nil => rw [← ih]; rfl
            | cons next parts => rw [← ih]; rfl

end Dialogue.Text
