/-
# Values bring no markup

The text of a node is read by the messenger as HTML or as Markdown, and values of users stand in it.
They are escaped, so that whatever a user has answered, the markup is the one of the template. For
HTML this is a matter of the angle brackets. Markdown is more delicate, since a backslash takes away
the meaning of the character after it: at the seams, a backslash of the template might meet the
first character of a value, and one of a value the character of the template behind it. The first
can be seen in the template; the second does not happen.

Both are statements about two tables of values, which may differ in everything. What a text has
outside its placeholders is said by `Outside`, without the reader of templates.
-/

import Mathlib.Algebra.Group.Nat.Even
import Mathlib.Data.List.DropRight
import Dialogue.Proofs.Template.Substitution

namespace Dialogue

namespace Template

/-! ## Outside the placeholders -/

/-- A text begins with a placeholder. -/
def Opens (cs : List Char) : Prop :=
  ∃ name after, IsName name ∧ cs = '{' :: (name ++ '}' :: after)

/-- What a text has outside its placeholders. -/
inductive Outside : List Char → List Char → Prop
  | nil : Outside [] []
  | literal {c : Char} {cs rest : List Char} (closed : ¬ Opens (c :: cs))
      (later : Outside cs rest) :
      Outside (c :: cs) (c :: rest)
  | placeholder {name after rest : List Char} (named : IsName name) (later : Outside after rest) :
      Outside ('{' :: (name ++ '}' :: after)) rest

theorem not_opens_iff {c : Char} {cs : List Char} :
    ¬ Opens (c :: cs) ↔ (c = '{' → name? cs = none) := by
  constructor
  · rintro closed rfl
    cases read : name? cs with
    | none => rfl
    | some name =>
        obtain ⟨named, after, rfl⟩ := name?_eq_some_iff.1 read
        exact absurd ⟨name, after, named, rfl⟩ closed
  · rintro unread ⟨name, after, named, same⟩
    cases same
    have read := name?_eq_some_iff.2 ⟨named, after, rfl⟩
    rw [unread rfl] at read
    cases read

theorem exists_outside (cs : List Char) : ∃ rest, Outside cs rest := by
  induction cs using reading_induction with
  | nil => exact ⟨[], .nil⟩
  | literal c cs unread ih =>
      obtain ⟨rest, later⟩ := ih
      exact ⟨c :: rest, .literal (not_opens_iff.2 unread) later⟩
  | placeholder name after named ih =>
      obtain ⟨rest, later⟩ := ih
      exact ⟨rest, .placeholder named later⟩

theorem escape_cons (format : TextFormat) (c : Char) (cs : List Char) :
    escape format (c :: cs) = escapeChar format c ++ escape format cs := List.flatMap_cons

/-! ## HTML -/

/-- A character that begins or ends a tag. -/
def isAngle (c : Char) : Bool := c = '<' || c = '>'

theorem escapeChar_html_of_ne {c : Char} (ampersand : c ≠ '&') (opening : c ≠ '<')
    (closing : c ≠ '>') : escapeChar .html c = [c] := by
  unfold escapeChar
  split
  · contradiction
  · contradiction
  · contradiction
  · contradiction
  · rfl
  · contradiction

/-- What is written for a character in HTML. -/
theorem escapeChar_html_cases (c : Char) :
    (c = '&' ∧ escapeChar .html c = ['&', 'a', 'm', 'p', ';']) ∨
      (c = '<' ∧ escapeChar .html c = ['&', 'l', 't', ';']) ∨
      (c = '>' ∧ escapeChar .html c = ['&', 'g', 't', ';']) ∨
      (c ≠ '&' ∧ isAngle c = false ∧ escapeChar .html c = [c]) := by
  by_cases ampersand : c = '&'
  · subst ampersand
    exact .inl ⟨rfl, rfl⟩
  · by_cases opening : c = '<'
    · subst opening
      exact .inr (.inl ⟨rfl, rfl⟩)
    · by_cases closing : c = '>'
      · subst closing
        exact .inr (.inr (.inl ⟨rfl, rfl⟩))
      · refine .inr (.inr (.inr ⟨ampersand, by simp [isAngle, opening, closing], ?_⟩))
        exact escapeChar_html_of_ne ampersand opening closing

theorem filter_isAngle_escape (cs : List Char) : (escape .html cs).filter isAngle = [] := by
  induction cs with
  | nil => rfl
  | cons c cs ih =>
      have here : (escapeChar .html c).filter isAngle = [] := by
        rcases escapeChar_html_cases c with ⟨_, written⟩ | ⟨_, written⟩ | ⟨_, written⟩ |
          ⟨_, tagless, written⟩
        · rw [written]; rfl
        · rw [written]; rfl
        · rw [written]; rfl
        · rw [written, List.filter_singleton, tagless]; rfl
      rw [escape_cons, List.filter_append, here, ih, List.append_nil]

/-- There is no angle bracket in a name. -/
theorem IsName.filter_isAngle {name : List Char} (named : IsName name) :
    name.filter isAngle = [] := by
  rw [List.filter_eq_nil_iff]
  intro c listed angle
  have part := named.continues c listed
  rw [isAngle, Bool.or_eq_true, decide_eq_true_iff, decide_eq_true_iff] at angle
  rcases angle with rfl | rfl
  · cases part
  · cases part

/-- The angle brackets of a text are those of the template. -/
theorem filter_isAngle_fillAll (vars : Variables) (cs : List Char) :
    (fillAll .html vars cs).filter isAngle = cs.filter isAngle := by
  induction cs using reading_induction with
  | nil => rfl
  | literal c cs unread ih =>
      rw [fillAll_literal .html vars unread, List.filter_cons, List.filter_cons, ih]
  | placeholder name after named ih =>
      have braces : ('{' :: (name ++ '}' :: after)).filter isAngle = after.filter isAngle := by
        rw [List.filter_cons_of_neg (by decide), List.filter_append, named.filter_isAngle,
          List.nil_append, List.filter_cons_of_neg (by decide)]
      rw [fillAll_placeholder .html vars named, List.filter_append, filter_isAngle_escape,
        List.nil_append, ih, braces]

/-- What may follow an ampersand. -/
def EntityTail (cs : List Char) : Prop :=
  ['a', 'm', 'p', ';'] <+: cs ∨ ['l', 't', ';'] <+: cs ∨ ['g', 't', ';'] <+: cs

/-- Every ampersand begins one of the entities that stand for special characters. -/
def Entities (cs : List Char) : Prop :=
  ∀ before after, cs = before ++ '&' :: after → EntityTail after

theorem EntityTail.append {cs : List Char} (tail : EntityTail cs) (more : List Char) :
    EntityTail (cs ++ more) := by
  rcases tail with amp | lt | gt
  · exact .inl (amp.trans (List.prefix_append cs more))
  · exact .inr (.inl (lt.trans (List.prefix_append cs more)))
  · exact .inr (.inr (gt.trans (List.prefix_append cs more)))

theorem Entities.append {left right : List Char} (first : Entities left) (second : Entities right) :
    Entities (left ++ right) := by
  intro before after whole
  rcases List.append_eq_append_iff.1 whole with ⟨more, _, there⟩ | ⟨more, here, tail⟩
  · exact second more after there
  · cases more with
    | nil => exact second [] after tail.symm
    | cons c more =>
        cases tail
        exact (first before more here).append right

theorem entities_of_not_mem {cs : List Char} (free : '&' ∉ cs) : Entities cs := by
  rintro before after rfl
  simp at free

theorem entities_ampersand {cs : List Char} (tail : EntityTail cs) (free : '&' ∉ cs) :
    Entities ('&' :: cs) := by
  intro before after same
  cases before with
  | nil =>
      cases same
      exact tail
  | cons c before =>
      cases same
      simp at free

theorem entities_escapeChar (c : Char) : Entities (escapeChar .html c) := by
  rcases escapeChar_html_cases c with ⟨_, written⟩ | ⟨_, written⟩ | ⟨_, written⟩ | ⟨ne, _, written⟩
  · rw [written]
    exact entities_ampersand (.inl List.prefix_rfl) (by decide)
  · rw [written]
    exact entities_ampersand (.inr (.inl List.prefix_rfl)) (by decide)
  · rw [written]
    exact entities_ampersand (.inr (.inr List.prefix_rfl)) (by decide)
  · rw [written]
    exact entities_of_not_mem (by simpa using ne.symm)

theorem entities_escape (cs : List Char) : Entities (escape .html cs) := by
  induction cs with
  | nil => exact entities_of_not_mem List.not_mem_nil
  | cons c cs ih =>
      rw [escape_cons]
      exact (entities_escapeChar c).append ih

/-! ## Markdown -/

/-- The special characters of a text that have their meaning, in the order in which they are read.
The flag says that a backslash was read just before which has its own meaning: it takes the one of
the next special character, and is counted itself only if none follows. -/
def marksFrom : Bool → List Char → List Char
  | true, [] => ['\\']
  | false, [] => []
  | true, c :: cs => if c ∈ markdownSpecials then marksFrom false cs else '\\' :: marksFrom false cs
  | false, c :: cs =>
      if c = '\\' then marksFrom true cs
      else if c ∈ markdownSpecials then c :: marksFrom false cs
      else marksFrom false cs

/-- The special characters of a text that have their meaning. -/
def marks (cs : List Char) : List Char := marksFrom false cs

/-- The number of backslashes at the end of a text. -/
def backslashes (cs : List Char) : Nat := (cs.rtakeWhile (· = '\\')).length

/-- No placeholder directly follows an odd number of backslashes. -/
def Unescaped (cs : List Char) : Prop :=
  ∀ before name after, IsName name → cs = before ++ '{' :: (name ++ '}' :: after) →
    Even (backslashes before)

/-- Whether the next special character is without meaning, after some text has been read. -/
def pendingAfter (read : List Char) : Bool := ¬ Even (backslashes read)

theorem pendingAfter_concat (read : List Char) (c : Char) :
    pendingAfter (read ++ [c]) = (!pendingAfter read && c = '\\') := by
  rw [pendingAfter, pendingAfter, backslashes, backslashes, List.rtakeWhile_concat]
  by_cases backslash : c = '\\'
  · rw [if_pos (decide_eq_true backslash), List.length_append, List.length_singleton]
    simp only [Nat.even_add_one, decide_not, Bool.not_not, backslash, decide_true, Bool.and_true]
  · simp [backslash]

/-- Texts with the same first character have the same marks if they have so after it. -/
theorem marksFrom_cons_congr {pending : Bool} {c : Char} {cs cs' : List Char}
    (same : marksFrom (!pending && c = '\\') cs = marksFrom (!pending && c = '\\') cs') :
    marksFrom pending (c :: cs) = marksFrom pending (c :: cs') := by
  cases pending with
  | true =>
      rw [marksFrom, marksFrom]
      simp only [Bool.not_true, Bool.false_and] at same
      rw [same]
  | false =>
      rw [marksFrom, marksFrom]
      by_cases backslash : c = '\\'
      · simp only [backslash, Bool.not_false, Bool.true_and, decide_true] at same
        rw [if_pos backslash, if_pos backslash, same]
      · simp only [backslash, decide_false, Bool.and_false] at same
        rw [if_neg backslash, if_neg backslash, same]

theorem escapeChar_markdown (c : Char) :
    escapeChar .markdownV2 c = if c ∈ markdownSpecials then ['\\', c] else [c] := rfl

/-- A value has no marks, and it does not take the meaning of what follows. -/
theorem marksFrom_escape (cs rest : List Char) :
    marksFrom false (escape .markdownV2 cs ++ rest) = marksFrom false rest := by
  induction cs with
  | nil => rfl
  | cons c cs ih =>
      rw [escape_cons, escapeChar_markdown, List.append_assoc]
      by_cases special : c ∈ markdownSpecials
      · rw [if_pos special]
        show marksFrom false ('\\' :: c :: (escape .markdownV2 cs ++ rest)) = _
        rw [marksFrom, if_pos rfl, marksFrom, if_pos special, ih]
      · have plain : c ≠ '\\' := by
          rintro rfl
          exact special (by decide)
        rw [if_neg special]
        show marksFrom false (c :: (escape .markdownV2 cs ++ rest)) = _
        rw [marksFrom, if_neg plain, if_neg special, ih]

/-- The marks of a text are those outside the placeholders of the template. -/
theorem marksFrom_fillAll (vars : Variables) {cs rest : List Char} (outside : Outside cs rest)
    (read : List Char) (unescaped : ∀ before name after, IsName name →
      cs = before ++ '{' :: (name ++ '}' :: after) → Even (backslashes (read ++ before))) :
    marksFrom (pendingAfter read) (fillAll .markdownV2 vars cs) =
      marksFrom (pendingAfter read) rest := by
  -- What has been read so far decides about the next character, so it grows along with the text.
  induction outside generalizing read with
  | nil => rfl
  | @literal c cs rest closed later ih =>
      rw [fillAll_literal .markdownV2 vars (not_opens_iff.1 closed)]
      apply marksFrom_cons_congr
      rw [← pendingAfter_concat]
      apply ih
      rintro before name after named rfl
      rw [List.append_assoc]
      exact unescaped (c :: before) name after named rfl
  | @placeholder name after rest named later ih =>
      have even : pendingAfter read = false := by
        have first := unescaped [] name after named rfl
        rw [List.append_nil] at first
        exact decide_eq_false (not_not_intro first)
      have ended : pendingAfter (read ++ '{' :: name ++ ['}']) = false := by
        rw [pendingAfter_concat]
        exact Bool.and_false _
      have rest := ih (read ++ '{' :: name ++ ['}']) (by
        rintro before name' after' named' rfl
        have whole : read ++ '{' :: name ++ ['}'] ++ before =
            read ++ ('{' :: (name ++ '}' :: before)) := by simp
        rw [whole]
        exact unescaped ('{' :: (name ++ '}' :: before)) name' after' named' (by simp))
      rw [ended] at rest
      rw [even, fillAll_placeholder .markdownV2 vars named, marksFrom_escape, rest]

/-! ## Undoing the escapes -/

/-- A text of HTML with the entities of the special characters read. -/
def readHtml : List Char → List Char
  | [] => []
  | '&' :: 'a' :: 'm' :: 'p' :: ';' :: cs => '&' :: readHtml cs
  | '&' :: 'l' :: 't' :: ';' :: cs => '<' :: readHtml cs
  | '&' :: 'g' :: 't' :: ';' :: cs => '>' :: readHtml cs
  | c :: cs => c :: readHtml cs

/-- A text of Markdown without the backslashes that take the meaning of a special character. -/
def readMarkdown : List Char → List Char
  | [] => []
  | '\\' :: c :: cs =>
      if c ∈ markdownSpecials then c :: readMarkdown cs else '\\' :: readMarkdown (c :: cs)
  | c :: cs => c :: readMarkdown cs

/-- A text with the escapes of its format undone. -/
def unescape : TextFormat → List Char → List Char
  | .plain, cs => cs
  | .html, cs => readHtml cs
  | .markdownV2, cs => readMarkdown cs

theorem readHtml_of_ne {c : Char} (ampersand : c ≠ '&') (cs : List Char) :
    readHtml (c :: cs) = c :: readHtml cs := by
  conv => lhs; unfold readHtml
  split
  · contradiction
  · next same => cases same; contradiction
  · next same => cases same; contradiction
  · next same => cases same; contradiction
  · next same => cases same; rfl

theorem readHtml_escape (cs : List Char) : readHtml (escape .html cs) = cs := by
  induction cs with
  | nil => rfl
  | cons c cs ih =>
      rw [escape_cons]
      rcases escapeChar_html_cases c with ⟨rfl, written⟩ | ⟨rfl, written⟩ | ⟨rfl, written⟩ |
        ⟨ne, _, written⟩
      · rw [written]
        exact congrArg (List.cons '&') ih
      · rw [written]
        exact congrArg (List.cons '<') ih
      · rw [written]
        exact congrArg (List.cons '>') ih
      · rw [written, List.singleton_append, readHtml_of_ne ne, ih]

theorem readMarkdown_of_special {c : Char} (special : c ∈ markdownSpecials) (cs : List Char) :
    readMarkdown ('\\' :: c :: cs) = c :: readMarkdown cs := by
  rw [readMarkdown, if_pos special]

theorem readMarkdown_of_ne {c : Char} (backslash : c ≠ '\\') (cs : List Char) :
    readMarkdown (c :: cs) = c :: readMarkdown cs := by
  conv => lhs; unfold readMarkdown
  split
  · contradiction
  · next same => cases same; contradiction
  · next same => cases same; rfl

theorem readMarkdown_escape (cs : List Char) : readMarkdown (escape .markdownV2 cs) = cs := by
  induction cs with
  | nil => rfl
  | cons c cs ih =>
      rw [escape_cons, escapeChar_markdown]
      by_cases special : c ∈ markdownSpecials
      · rw [if_pos special]
        show readMarkdown ('\\' :: c :: escape .markdownV2 cs) = c :: cs
        rw [readMarkdown_of_special special, ih]
      · have plain : c ≠ '\\' := by
          rintro rfl
          exact special (by decide)
        rw [if_neg special, List.singleton_append, readMarkdown_of_ne plain, ih]

theorem unescape_escape (format : TextFormat) (cs : List Char) :
    unescape format (escape format cs) = cs := by
  cases format with
  | plain => exact escape_plain cs
  | html => exact readHtml_escape cs
  | markdownV2 => exact readMarkdown_escape cs

/-! ## Two tables of values -/

/-- What two tables of values have in common that are filled into the same text. -/
structure Harmless (text : String) (left right : Variables) : Prop where
  /-- In HTML, both results have the angle brackets of the text, in the same order. -/
  html : (substitute .html left text).toList.filter isAngle = text.toList.filter isAngle ∧
    (substitute .html right text).toList.filter isAngle = text.toList.filter isAngle
  /-- For a placeholder of the text its value is inserted, escaped for the format. -/
  inserted : ∀ format, ∀ vars ∈ [left, right], ∀ before name after, IsName name.toList →
    text = before ++ placeholder name ++ after →
    substitute format vars text =
      substitute format vars before ++ escaped format ((vars.get? name).getD name) ++
        substitute format vars after
  /-- In what is inserted, every ampersand begins an entity. -/
  entities : ∀ value, Entities (escaped .html value).toList
  /-- In Markdown, both results have the marks that the text has outside its placeholders. -/
  markdown : Unescaped text.toList → ∃ rest, Outside text.toList rest ∧
    marks (substitute .markdownV2 left text).toList = marks rest ∧
    marks (substitute .markdownV2 right text).toList = marks rest
  /-- In each format, undoing the escapes of what is inserted gives the value. -/
  undone : ∀ format value, unescape format (escaped format value).toList = value.toList

/-- **Values bring no markup.** Whatever two tables say, the texts that they are filled into have
the same angle brackets in HTML, and the same special characters with a meaning in Markdown, unless
the template itself puts a backslash before a placeholder. They are the ones of the template. For
each placeholder of the template something is inserted from which its value can be read again. -/
theorem harmless_substitute (text : String) (left right : Variables) :
    Harmless text left right where
  html := by
    refine ⟨?_, ?_⟩
    · rw [substitute, String.toList_ofList, filter_isAngle_fillAll]
    · rw [substitute, String.toList_ofList, filter_isAngle_fillAll]
  inserted := by
    rintro format vars _ before name after named rfl
    exact substitute_around format vars before named after
  entities := by
    intro value
    rw [escaped, String.toList_ofList]
    exact entities_escape value.toList
  markdown := by
    intro unescaped
    obtain ⟨rest, outside⟩ := exists_outside text.toList
    have same (vars : Variables) :
        marks (substitute .markdownV2 vars text).toList = marks rest := by
      rw [substitute, String.toList_ofList]
      exact marksFrom_fillAll vars outside [] unescaped
    exact ⟨rest, outside, same left, same right⟩
  undone := by
    intro format value
    rw [escaped, String.toList_ofList, unescape_escape]

/-- A placeholder after a backslash that is shown, and before a mark. -/
def signature : String := "\\\\" ++ placeholder "a" ++ "*"

theorem signature_harmless :
    Unescaped signature.toList ∧
      marks (substitute .markdownV2 (Table.ofList [("a", "_[*\\")]) signature).toList = ['*'] ∧
      marks (substitute .markdownV2 ∅ signature).toList = ['*'] := by
  have unescaped : Unescaped signature.toList := by
    intro before name after _ same
    have chars : signature.toList = ['\\', '\\', '{', 'a', '}', '*'] := by decide +kernel
    rw [chars] at same
    -- There is one brace that opens, and two characters stand before it.
    rcases before with _ | ⟨_, _ | ⟨_, _ | ⟨_, before⟩⟩⟩
    · cases same
    · cases same
    · obtain ⟨rfl, rfl, _⟩ := by simpa only [List.cons_append, List.cons.injEq] using same
      decide
    · simp only [List.cons_append, List.cons.injEq] at same
      have listed : '{' ∈ ['a', '}', '*'] := by
        rw [same.2.2.2]
        simp
      simp at listed
  have harmless :=
    harmless_substitute signature (Table.ofList [("a", "_[*\\")]) ∅
  obtain ⟨rest, _, left, right⟩ := harmless.markdown unescaped
  have computed :
      marks (substitute .markdownV2 (Table.ofList [("a", "_[*\\")]) signature).toList = ['*'] := by
    decide +kernel
  exact ⟨unescaped, computed, right.trans (left.symm.trans computed)⟩

end Template

end Dialogue
