/-
# The grammar of actions

Which texts are read as an action, and as which one. An action has one text that is written, but it
may be read from others as well, since the index may have a plus sign and zeros in front. The name
of a node may hold colons and may even look like the end of an action: what counts as the index is
what follows the last colon.

The grammar is stated without the reader, by `Action.Spelled`. That the reader accepts exactly the
texts of the grammar is the main statement; that every action which can be stated is read as it was
written is a part of it.
-/

import Dialogue.Proofs.Callback.Payload

namespace Dialogue

/-! ## Numbers -/

namespace Number

/-- The digits of a number, with any zeros in front. -/
structure DigitsOf (cs : List Char) (n : Nat) : Prop where
  nonempty : cs ≠ []
  digits : ∀ c ∈ cs, c.isDigit = true
  value : Nat.ofDigitChars 10 cs 0 = n

/-- A way to write a number below a limit: its digits, perhaps after a plus sign. -/
structure Numeral (limit : Nat) (cs : List Char) (n : Nat) : Prop where
  form : DigitsOf cs n ∨ ∃ digits, cs = '+' :: digits ∧ DigitsOf digits n
  small : n < limit

theorem ofDigits?_eq_some_iff {cs : List Char} {n : Nat} :
    ofDigits? cs = some n ↔ DigitsOf cs n := by
  constructor
  · intro read
    simp only [ofDigits?, Option.ite_none_right_eq_some, Bool.and_eq_true, Bool.not_eq_true',
      List.isEmpty_eq_false_iff, List.all_eq_true, Option.some.injEq] at read
    exact ⟨read.1.1, read.1.2, read.2⟩
  · rintro ⟨nonempty, digits, rfl⟩
    simp [ofDigits?, nonempty, List.all_eq_true.2 digits]

/-- A plus sign is no digit. -/
theorem DigitsOf.head_ne_plus {first : Char} {rest : List Char} {n : Nat}
    (decimal : DigitsOf (first :: rest) n) : first ≠ '+' := by
  rintro rfl
  have digit := decimal.digits '+' List.mem_cons_self
  cases digit

theorem digitsOf_dropPlus_iff {cs : List Char} {n : Nat} :
    DigitsOf (dropPlus cs) n ↔
      DigitsOf cs n ∨ ∃ digits, cs = '+' :: digits ∧ DigitsOf digits n := by
  unfold dropPlus
  split
  · next rest =>
      constructor
      · intro decimal
        exact .inr ⟨rest, rfl, decimal⟩
      · rintro (decimal | ⟨digits, same, decimal⟩)
        · exact absurd rfl decimal.head_ne_plus
        · cases same
          exact decimal
  · next unsigned =>
      constructor
      · exact .inl
      · rintro (decimal | ⟨digits, same, _⟩)
        · exact decimal
        · exact absurd same (unsigned digits)

/-- The reader of numbers takes exactly the numerals. -/
theorem readUnsigned?_eq_some_iff {limit : Nat} {cs : List Char} {n : Nat} :
    readUnsigned? limit cs = some n ↔ Numeral limit cs n := by
  rw [readUnsigned?, Option.filter_eq_some_iff, ofDigits?_eq_some_iff, digitsOf_dropPlus_iff,
    decide_eq_true_iff]
  constructor
  · rintro ⟨form, small⟩
    exact ⟨form, small⟩
  · rintro ⟨form, small⟩
    exact ⟨form, small⟩

/-- There is no colon in a numeral. -/
theorem Numeral.colonFree {limit : Nat} {cs : List Char} {n : Nat} (numeral : Numeral limit cs n) :
    ':' ∉ cs := by
  have plain {digits : List Char} (decimal : DigitsOf digits n) : ':' ∉ digits := by
    intro listed
    have digit := decimal.digits ':' listed
    cases digit
  rcases numeral.form with decimal | ⟨digits, rfl, decimal⟩
  · exact plain decimal
  · simp [plain decimal]

end Number

/-! ## Actions -/

namespace Action

/-- The texts of an action. -/
inductive Spelled : Action → String → Prop
  | button {node : NodeId} {index : List Char} {n : Nat} (named : node ≠ "")
      (numeral : Number.Numeral Number.unsigned64 index n) :
      Spelled (.button node n) ("b:" ++ node ++ ":" ++ String.ofList index)
  | toggle {node : NodeId} {index : List Char} {n : Nat} (named : node ≠ "")
      (numeral : Number.Numeral Number.unsigned64 index n) :
      Spelled (.toggle node n) ("t:" ++ node ++ ":" ++ String.ofList index)
  | done {node : NodeId} (named : node ≠ "") : Spelled (.done node) ("d:" ++ node)

theorem indexed?_eq_some_iff {cs : List Char} {node : NodeId} {n : Nat} :
    indexed? cs = some (node, n) ↔
      node ≠ "" ∧ ∃ index, cs = node.toList ++ ':' :: index ∧
        Number.Numeral Number.unsigned64 index n := by
  constructor
  · intro read
    obtain ⟨⟨name, index⟩, divided, rest⟩ := Option.bind_eq_some_iff.1 read
    obtain ⟨rfl, _⟩ := Text.splitLast?_eq_some_iff.1 divided
    dsimp only at rest
    split at rest
    · cases rest
    · next named =>
        obtain ⟨m, number, same⟩ := Option.bind_eq_some_iff.1 rest
        cases same
        refine ⟨?_, index, by simp, Number.readUnsigned?_eq_some_iff.1 number⟩
        simpa using named
  · rintro ⟨named, index, rfl, numeral⟩
    have split : Text.splitLast? ':' (node.toList ++ ':' :: index) = some (node.toList, index) :=
      Text.splitLast?_eq_some_iff.2 ⟨rfl, numeral.colonFree⟩
    simp [indexed?, split, named, Number.readUnsigned?_eq_some_iff.2 numeral]

/-- The texts of an action are read as that action. -/
theorem Spelled.parse?_eq {a : Action} {s : String} (spelled : a.Spelled s) :
    parse? s = some a := by
  cases spelled with
  | @button node index n named numeral =>
      have chars : ("b:" ++ node ++ ":" ++ String.ofList index).toList =
          'b' :: ':' :: (node.toList ++ ':' :: index) := by simp
      rw [parse?, chars, splitFirst?_kind _ (by decide)]
      show (indexed? _).map _ = _
      rw [indexed?_eq_some_iff.2 ⟨named, index, rfl, numeral⟩]
      rfl
  | @toggle node index n named numeral =>
      have chars : ("t:" ++ node ++ ":" ++ String.ofList index).toList =
          't' :: ':' :: (node.toList ++ ':' :: index) := by simp
      rw [parse?, chars, splitFirst?_kind _ (by decide)]
      show (indexed? _).map _ = _
      rw [indexed?_eq_some_iff.2 ⟨named, index, rfl, numeral⟩]
      rfl
  | @done node named =>
      have chars : ("d:" ++ node).toList = 'd' :: ':' :: node.toList := by simp
      rw [parse?, chars, splitFirst?_kind _ (by decide)]
      simp [named]

/-- What is read as an action is one of its texts. -/
theorem spelled_of_parse? {a : Action} {s : String} (read : parse? s = some a) : a.Spelled s := by
  obtain ⟨⟨kind, rest⟩, split, read⟩ := Option.bind_eq_some_iff.1 read
  obtain ⟨chars, _⟩ := Text.splitFirst?_eq_some_iff.1 split
  dsimp only at read
  split at read
  · obtain ⟨⟨node, n⟩, indexed, rfl⟩ := Option.map_eq_some_iff.1 read
    obtain ⟨named, index, rfl, numeral⟩ := indexed?_eq_some_iff.1 indexed
    obtain rfl : s = "b:" ++ node ++ ":" ++ String.ofList index := by
      apply String.toList_inj.1
      simp [chars]
    exact .button named numeral
  · obtain ⟨⟨node, n⟩, indexed, rfl⟩ := Option.map_eq_some_iff.1 read
    obtain ⟨named, index, rfl, numeral⟩ := indexed?_eq_some_iff.1 indexed
    obtain rfl : s = "t:" ++ node ++ ":" ++ String.ofList index := by
      apply String.toList_inj.1
      simp [chars]
    exact .toggle named numeral
  · split at read
    · cases read
    · next named =>
        cases read
        obtain rfl : s = "d:" ++ String.ofList rest := by
          apply String.toList_inj.1
          simp [chars]
        exact .done (by simpa using named)
  · cases read

/-- The reader takes exactly the texts of the grammar. -/
theorem parse?_eq_some_iff {a : Action} {s : String} : parse? s = some a ↔ a.Spelled s :=
  ⟨spelled_of_parse?, Spelled.parse?_eq⟩

/-- Only an action that can be stated has a text. -/
theorem Spelled.statable {a : Action} {s : String} (spelled : a.Spelled s) : a.Statable := by
  have nonempty {node : NodeId} (named : node ≠ "") : node.toList ≠ [] := by
    simpa using named
  cases spelled with
  | button named numeral => exact ⟨nonempty named, numeral.small⟩
  | toggle named numeral => exact ⟨nonempty named, numeral.small⟩
  | done named => exact nonempty named

theorem Spelled.node_ne {a : Action} {s : String} (spelled : a.Spelled s) : a.node ≠ "" := by
  cases spelled with
  | button named _ => exact named
  | toggle named _ => exact named
  | done named => exact named

/-- **Actions are read as they are written.** A text is read as an action exactly if it is one of
the texts of that action. An action whose node has a name and whose index can be stated is read from
its own text. Whatever is read as an action belongs to a node with a name, and it is read again from
the text that is written for it. -/
theorem parse?_exact (s : String) (a : Action) :
    (parse? s = some a ↔ a.Spelled s) ∧
      (a.Statable → parse? a.text = some a) ∧
      (parse? s = some a → a.node ≠ "" ∧ parse? a.text = some a) := by
  have written (statable : a.Statable) : parse? a.text = some a := by
    rw [parse?_text, if_pos statable]
  refine ⟨parse?_eq_some_iff, written, ?_⟩
  intro read
  have spelled := spelled_of_parse? read
  exact ⟨spelled.node_ne, written spelled.statable⟩

example : parse? "b:x:3:+007" = some (.button "x:3" 7) ∧ parse? "t:::0" = some (.toggle ":" 0) ∧
    parse? "b:x:18446744073709551616" = none := by
  decide +kernel

end Action

end Dialogue
