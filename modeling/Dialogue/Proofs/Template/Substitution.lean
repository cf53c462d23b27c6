/-
# Substitution in one pass

A placeholder begins with a brace that no name holds, so two placeholders never overlap and none is
made or lost where texts are put together around one. This module says so of the parts of a
template, without the reader: `IsName` gives the names, and `Plain` the texts without a placeholder.

The main statement is that substitution is one pass. It goes through the text before a placeholder
and through the text after it as if they stood alone, what it inserts is not looked at again, and a
text without placeholders stays as it is.
-/

import Dialogue.Template
import Dialogue.Proofs.Text.Latin

namespace Dialogue

namespace Template

/-! ## Names -/

/-- A letter, or the underscore. -/
def BeginsName (c : Char) : Prop := Text.IsLetter c ∨ c = '_'

/-- What may begin a name, or a digit. -/
def ContinuesName (c : Char) : Prop := BeginsName c ∨ Text.IsDigit c

/-- A name, as it stands in a placeholder. -/
inductive IsName : List Char → Prop
  | intro {first : Char} {rest : List Char} (begins : BeginsName first)
      (continues : ∀ c ∈ rest, ContinuesName c) : IsName (first :: rest)

theorem isNameStart_iff {c : Char} : isNameStart c = true ↔ BeginsName c := by
  rw [isNameStart, Bool.or_eq_true, Text.isAlpha_iff, decide_eq_true_iff, BeginsName]

theorem isNamePart_iff {c : Char} : isNamePart c = true ↔ ContinuesName c := by
  rw [isNamePart, Bool.or_eq_true, Text.isAlphanum_iff, decide_eq_true_iff, ContinuesName,
    BeginsName, or_right_comm]

theorem IsName.continues {name : List Char} (named : IsName name) :
    ∀ c ∈ name, isNamePart c = true := by
  cases named with
  | intro begins continues =>
      intro c listed
      rw [isNamePart_iff]
      rcases List.mem_cons.1 listed with rfl | later
      · exact .inl begins
      · exact continues c later

/-- There is no brace in a name. -/
theorem IsName.ne_brace {name : List Char} (named : IsName name) {c : Char} (listed : c ∈ name) :
    c ≠ '{' ∧ c ≠ '}' := by
  have continues := named.continues c listed
  constructor
  · rintro rfl
    cases continues
  · rintro rfl
    cases continues

/-- The reader finds a name exactly where one stands before a closing brace. -/
theorem name?_eq_some_iff {cs name : List Char} :
    name? cs = some name ↔ IsName name ∧ ∃ after, cs = name ++ '}' :: after := by
  constructor
  · intro read
    rw [name?] at read
    split at read
    · next first rest after taken left =>
        split at read
        · next begins =>
            cases read
            refine ⟨.intro (isNameStart_iff.1 begins) ?_, after, ?_⟩
            · intro c listed
              have part : c ∈ cs.takeWhile isNamePart := by
                rw [taken]
                exact List.mem_cons_of_mem first listed
              exact isNamePart_iff.1 (List.all_eq_true.1 List.all_takeWhile c part)
            · rw [← taken, ← left, List.takeWhile_append_dropWhile]
        · cases read
    · cases read
  · rintro ⟨named, after, rfl⟩
    have parts := named.continues
    have stop : isNamePart '}' = false := rfl
    have taken : (name ++ '}' :: after).takeWhile isNamePart = name := by
      rw [List.takeWhile_append_of_pos parts, List.takeWhile_cons_of_neg (by simp [stop]),
        List.append_nil]
    have left : (name ++ '}' :: after).dropWhile isNamePart = '}' :: after := by
      rw [List.dropWhile_append_of_pos parts, List.dropWhile_cons_of_neg (by simp [stop])]
    cases named with
    | intro begins _ =>
        rw [name?, taken, left]
        exact if_pos (isNameStart_iff.2 begins)

/-- An opening brace ends the search for a name, so what follows it does not matter. -/
theorem name?_append_brace (cs after : List Char) : name? (cs ++ '{' :: after) = name? cs := by
  ext name
  rw [name?_eq_some_iff, name?_eq_some_iff]
  constructor
  · rintro ⟨named, rest, same⟩
    refine ⟨named, ?_⟩
    -- The name and its brace lie before the opening brace, since neither of them holds it.
    rcases List.append_eq_append_iff.1 same with ⟨more, rfl, tail⟩ | ⟨more, rfl, tail⟩
    · cases more with
      | nil => cases tail
      | cons c more =>
          cases tail
          exact absurd rfl (named.ne_brace (by simp : '{' ∈ cs ++ '{' :: more)).1
    · cases more with
      | nil => cases tail
      | cons c more =>
          cases tail
          exact ⟨more, rfl⟩
  · rintro ⟨named, rest, rfl⟩
    exact ⟨named, rest ++ '{' :: after, by simp⟩

/-! ## The parts of a template -/

/-- Leaving out characters is beginning later. -/
theorem piecesFrom_eq (skipped : Nat) (cs : List Char) :
    piecesFrom skipped cs = pieces (cs.drop skipped) := by
  induction cs generalizing skipped with
  | nil => simp [piecesFrom, pieces]
  | cons c cs ih =>
      cases skipped with
      | zero => rfl
      | succ skipped => exact ih skipped

theorem pieces_placeholder {name : List Char} (named : IsName name) (after : List Char) :
    pieces ('{' :: (name ++ '}' :: after)) = .placeholder name :: pieces after := by
  have read : name? (name ++ '}' :: after) = some name :=
    name?_eq_some_iff.2 ⟨named, after, rfl⟩
  rw [pieces, piecesFrom, if_pos rfl, read]
  dsimp only
  rw [piecesFrom_eq]
  simp

theorem pieces_literal {c : Char} {cs : List Char} (unread : c = '{' → name? cs = none) :
    pieces (c :: cs) = .literal c :: pieces cs := by
  rw [pieces, piecesFrom]
  split
  · next brace => rw [unread brace]; rfl
  · rfl

/-- What holds of the empty text, and is carried over a character where no placeholder begins and
over a placeholder, holds of every text. -/
theorem reading_induction {P : List Char → Prop} (nil : P [])
    (literal : ∀ c cs, (c = '{' → name? cs = none) → P cs → P (c :: cs))
    (placeholder : ∀ name after, IsName name → P after → P ('{' :: (name ++ '}' :: after)))
    (cs : List Char) : P cs := by
  -- A placeholder is left at once, so the induction is on the length and not on the text.
  induction size : cs.length using Nat.strongRecOn generalizing cs with
  | ind n shorter =>
      subst size
      cases cs with
      | nil => exact nil
      | cons c cs =>
          by_cases unread : c = '{' → name? cs = none
          · exact literal c cs unread (shorter cs.length (by simp) cs rfl)
          · obtain ⟨rfl, read⟩ := Classical.not_imp.1 unread
            obtain ⟨name, read⟩ := Option.ne_none_iff_exists'.1 read
            obtain ⟨named, after, rfl⟩ := name?_eq_some_iff.1 read
            exact placeholder name after named (shorter after.length (by simp; omega) after rfl)

/-- A text is read up to an opening brace as if it ended there. -/
theorem pieces_append_brace (before after : List Char) :
    pieces (before ++ '{' :: after) = pieces before ++ pieces ('{' :: after) := by
  induction before using reading_induction with
  | nil => rfl
  | literal c cs unread ih =>
      have still : c = '{' → name? (cs ++ '{' :: after) = none := by
        rw [name?_append_brace]
        exact unread
      rw [List.cons_append, pieces_literal still, pieces_literal unread, ih, List.cons_append]
  | placeholder name rest named ih =>
      have moved : '{' :: (name ++ '}' :: rest) ++ '{' :: after =
          '{' :: (name ++ '}' :: (rest ++ '{' :: after)) := by simp
      rw [moved, pieces_placeholder named, pieces_placeholder named, ih, List.cons_append]

/-- No placeholder stands in a text. -/
def Plain (cs : List Char) : Prop :=
  ∀ before name after, IsName name → cs ≠ before ++ '{' :: (name ++ '}' :: after)

theorem name?_of_plain {cs : List Char} (plain : Plain ('{' :: cs)) : name? cs = none := by
  cases read : name? cs with
  | none => rfl
  | some name =>
      obtain ⟨named, after, rfl⟩ := name?_eq_some_iff.1 read
      exact absurd rfl (plain [] name after named)

theorem Plain.tail {c : Char} {cs : List Char} (plain : Plain (c :: cs)) : Plain cs := by
  rintro before name after named rfl
  exact plain (c :: before) name after named rfl

/-- A plain text has no parts but its characters. -/
theorem pieces_of_plain {cs : List Char} (plain : Plain cs) : pieces cs = cs.map .literal := by
  induction cs with
  | nil => rfl
  | cons c cs ih =>
      have unread : c = '{' → name? cs = none := by
        rintro rfl
        exact name?_of_plain plain
      rw [pieces_literal unread, ih plain.tail, List.map_cons]

/-! ## Filling in -/

section FillAll

variable (format : TextFormat) (vars : Variables)

theorem fillAll_literal {c : Char} {cs : List Char} (unread : c = '{' → name? cs = none) :
    fillAll format vars (c :: cs) = c :: fillAll format vars cs := by
  rw [fillAll, pieces_literal unread]
  rfl

theorem fillAll_placeholder {name : List Char} (named : IsName name) (after : List Char) :
    fillAll format vars ('{' :: (name ++ '}' :: after)) =
      escape format (valueOf vars name) ++ fillAll format vars after := by
  rw [fillAll, pieces_placeholder named, List.flatMap_cons]
  rfl

theorem fillAll_append_brace (before after : List Char) :
    fillAll format vars (before ++ '{' :: after) =
      fillAll format vars before ++ fillAll format vars ('{' :: after) := by
  rw [fillAll, pieces_append_brace, List.flatMap_append]
  rfl

theorem fillAll_of_plain {cs : List Char} (plain : Plain cs) : fillAll format vars cs = cs := by
  rw [fillAll, pieces_of_plain plain, List.flatMap_map]
  exact List.flatMap_singleton' cs

end FillAll

/-! ## Texts -/

/-- The placeholder of a name. -/
def placeholder (name : String) : String := String.ofList ('{' :: (name.toList ++ ['}']))

/-- A value as it is inserted into a text of some format. -/
def escaped (format : TextFormat) (value : String) : String :=
  String.ofList (escape format value.toList)

theorem escape_plain (cs : List Char) : escape .plain cs = cs := List.flatMap_singleton' cs

theorem valueOf_toList (vars : Variables) (name : String) :
    valueOf vars name.toList = ((vars.get? name).getD name).toList := by
  rw [valueOf, String.ofList_toList]
  cases vars.get? name with
  | none => rfl
  | some value => rfl

/-- Before and after a placeholder a text is read as if it ended there. -/
theorem substitute_around (format : TextFormat) (vars : Variables) (before : String) {name : String}
    (named : IsName name.toList) (after : String) :
    substitute format vars (before ++ placeholder name ++ after) =
      substitute format vars before ++ escaped format ((vars.get? name).getD name) ++
        substitute format vars after := by
  have chars : (before ++ placeholder name ++ after).toList =
      before.toList ++ '{' :: (name.toList ++ '}' :: after.toList) := by
    simp [placeholder]
  rw [substitute, chars, fillAll_append_brace, fillAll_placeholder format vars named,
    valueOf_toList]
  apply String.toList_inj.1
  simp [substitute, escaped]

/-- **Substitution is one pass.** Around a placeholder it treats the text before and the text after
as if each stood alone, whatever braces they hold, and it puts the value of the name between them,
or the name itself if it has none, escaped for the format. A value is not read again. A text in
which no placeholder stands is left as it is, and in plain text nothing is escaped. -/
theorem substitute_onePass (format : TextFormat) (vars : Variables) :
    (∀ before name after : String, IsName name.toList →
      substitute format vars (before ++ placeholder name ++ after) =
        substitute format vars before ++ escaped format ((vars.get? name).getD name) ++
          substitute format vars after) ∧
      (∀ text : String, Plain text.toList → substitute format vars text = text) ∧
      ∀ value, escaped .plain value = value := by
  refine ⟨?_, ?_, ?_⟩
  · intro before name after named
    exact substitute_around format vars before named after
  · intro text plain
    rw [substitute, fillAll_of_plain format vars plain, String.ofList_toList]
  · intro value
    rw [escaped, escape_plain, String.ofList_toList]

/-- A value that looks like a placeholder. -/
def echo : Variables := Table.ofList [("a", placeholder "b"), ("b", "boom")]

theorem echo_onePass :
    IsName "a".toList ∧
      substitute .plain echo ("\x7b" ++ placeholder "a" ++ "\x7d") =
        "\x7b" ++ placeholder "b" ++ "\x7d" := by
  have named : IsName "a".toList := .intro (.inl (by decide)) (by simp)
  have pass := (substitute_onePass .plain echo).1 "\x7b" "a" "\x7d" named
  refine ⟨named, ?_⟩
  rw [pass]
  decide +kernel

end Template

end Dialogue
