/-
# The texts of actions and references

A press gives back the text of an action or the text of a reference. Both are read as they were
written: a reference that can be stated at all is read as its place, and the text of an action is
read as that action or as none. The two never look alike, since they differ in their first two
characters.
-/

import Dialogue.Action
import Dialogue.Callback

namespace Dialogue

namespace Number

/-- The number can be stated with a sign below a limit. -/
def Fits (limit : Nat) (z : Int) : Prop := -(limit : Int) ≤ z ∧ z < limit

instance (limit : Nat) (z : Int) : Decidable (Fits limit z) := by
  unfold Fits
  infer_instance

theorem isDigit_of_mem_toDigits {n : Nat} {c : Char} (listed : c ∈ Nat.toDigits 10 n) :
    c.isDigit = true :=
  Nat.isDigit_of_mem_toDigits (by decide) (by decide) listed

theorem not_mem_toDigits {n : Nat} {c : Char} (other : c.isDigit = false) :
    c ∉ Nat.toDigits 10 n := by
  intro listed
  have digit := isDigit_of_mem_toDigits listed
  rw [other] at digit
  cases digit

/-- Digits do not begin with a sign. -/
theorem dropPlus_toDigits (n : Nat) : dropPlus (Nat.toDigits 10 n) = Nat.toDigits 10 n := by
  cases digits : Nat.toDigits 10 n with
  | nil => rfl
  | cons first rest =>
      have unsigned : first ≠ '+' := by
        rintro rfl
        have plain : '+' ∉ Nat.toDigits 10 n := not_mem_toDigits rfl
        exact plain (digits ▸ List.mem_cons_self)
      rw [dropPlus]
      intro rest' same
      exact unsigned (List.cons.inj same).1

theorem readUnsigned?_toDigits (limit n : Nat) :
    readUnsigned? limit (Nat.toDigits 10 n) = if n < limit then some n else none := by
  rw [readUnsigned?, dropPlus_toDigits, ofDigits?_toDigits]
  by_cases small : n < limit
  · simp [small]
  · simp [small, Nat.le_of_not_lt small]

/-- A number that fits is read as it was written. -/
theorem readSigned?_toString {limit : Nat} {z : Int} (fits : Fits limit z) :
    readSigned? limit (toString z).toList = some z := by
  obtain ⟨low, high⟩ := fits
  cases z with
  | ofNat n =>
      have digits : (toString (Int.ofNat n)).toList = Nat.toDigits 10 n := by
        show (toString n).toList = _
        rw [Nat.toString_eq_ofList_toDigits, String.toList_ofList]
      have small : n < limit := by
        have : (n : Int) < limit := high
        omega
      have unsigned : ∀ rest, Nat.toDigits 10 n = '-' :: rest → False := by
        intro rest begins
        have plain : '-' ∉ Nat.toDigits 10 n := not_mem_toDigits rfl
        exact plain (begins ▸ List.mem_cons_self)
      rw [digits, readSigned?.eq_2 _ _ unsigned, readUnsigned?_toDigits, if_pos small]
      rfl
  | negSucc n =>
      have digits : (toString (Int.negSucc n)).toList = '-' :: Nat.toDigits 10 (n + 1) := by
        show ("-" ++ toString (n + 1)).toList = _
        rw [Nat.toString_eq_ofList_toDigits, String.toList_append, String.toList_ofList]
        simp
      have small : n + 1 ≤ limit := by omega
      rw [digits, readSigned?, ofDigits?_toDigits]
      simp only [Option.filter_some, small, decide_true, if_true]
      rfl

/-- An integer is written with digits and a minus sign. -/
theorem eq_minus_or_isDigit_of_mem {z : Int} {c : Char} (listed : c ∈ (toString z).toList) :
    c = '-' ∨ c.isDigit = true := by
  have digit {n : Nat} (listed : c ∈ (toString n).toList) : c.isDigit = true := by
    rw [Nat.toString_eq_ofList_toDigits, String.toList_ofList] at listed
    exact isDigit_of_mem_toDigits listed
  cases z with
  | ofNat n => exact .inr (digit listed)
  | negSucc n =>
      change c ∈ ("-" ++ toString (n + 1)).toList at listed
      rw [String.toList_append, List.mem_append] at listed
      rcases listed with sign | listed
      · exact .inl (by simpa using sign)
      · exact .inr (digit listed)

/-- An integer within a limit takes a sign and the digits of the limit. -/
theorem length_toString_le {limit digits : Nat} {z : Int} (fits : Fits limit z)
    (positive : 0 < digits) (enough : limit < Nat.pow 10 digits) :
    (toString z).toList.length ≤ digits + 1 := by
  have bounded {n : Nat} (small : n < Nat.pow 10 digits) :
      (toString n).toList.length ≤ digits := by
    rw [Nat.toString_eq_ofList_toDigits, String.toList_ofList]
    exact (Nat.length_toDigits_le_iff (by decide) positive).2 small
  obtain ⟨low, high⟩ := fits
  cases z with
  | ofNat n =>
      have small : (n : Int) < limit := high
      have short := bounded (n := n) (by omega)
      exact Nat.le_succ_of_le short
  | negSucc n =>
      have short := bounded (n := n + 1) (by omega)
      show ("-" ++ toString (n + 1)).toList.length ≤ digits + 1
      rw [String.toList_append, List.length_append, Nat.add_comm]
      exact Nat.add_le_add_right short 1

end Number

namespace Text

/-- A text of ASCII characters takes one byte for each. -/
theorem utf8ByteSize_of_ascii {s : String} (ascii : ∀ c ∈ s.toList, c.toNat < 0x80) :
    s.utf8ByteSize = s.toList.length := by
  have size (cs : List Char) (ascii : ∀ c ∈ cs, c.toNat < 0x80) :
      (String.ofList cs).utf8ByteSize = cs.length := by
    induction cs with
    | nil => rfl
    | cons c cs ih =>
        have single : c.utf8Size = 1 := by
          rw [Char.utf8Size_eq_one_iff, UInt32.le_iff_toNat_le]
          exact Nat.le_of_lt_succ (ascii c List.mem_cons_self)
        rw [String.ofList_cons, String.utf8ByteSize_append, String.utf8ByteSize_singleton, single,
          ih fun c listed => ascii c (List.mem_cons_of_mem _ listed), List.length_cons,
          Nat.add_comm]
  rw [← size s.toList ascii, String.ofList_toList]

end Text

/-! ## References -/

/-- What can travel on a button is short and ASCII. -/
theorem fitsCallback_iff {data : String} :
    fitsCallback data = true ↔ data.utf8ByteSize ≤ 64 ∧ ∀ c ∈ data.toList, c.toNat < 0x80 := by
  rw [fitsCallback, Bool.and_eq_true, decide_eq_true_iff, List.all_eq_true]
  simp only [callbackLimit, decide_eq_true_iff]

namespace CallbackKey

/-- The place can be stated in a reference. -/
structure Statable (k : CallbackKey) : Prop where
  chat : Number.Fits Number.signed64 k.chat
  message : Number.Fits Number.signed32 k.message
  position : k.position < Number.unsigned64

theorem toList_text (k : CallbackKey) :
    k.text.toList = mark ++ ':' :: ((toString k.chat).toList ++ ':' ::
      ((toString k.message).toList ++ ':' :: Nat.toDigits 10 k.position)) := by
  have position : (toString k.position).toList = Nat.toDigits 10 k.position := by
    rw [Nat.toString_eq_ofList_toDigits, String.toList_ofList]
  have spelled : k.text = "cb:" ++ toString k.chat ++ ":" ++ toString k.message ++ ":" ++
      toString k.position := rfl
  rw [spelled]
  simp only [String.toList_append, position]
  simp [mark]

theorem take_text (k : CallbackKey) : k.text.toList.take 2 = mark := by
  rw [toList_text]
  rfl

/-- An integer is written without colons. -/
theorem colonFree_toString (z : Int) : ∀ c ∈ (toString z).toList, (c = ':' : Bool) = false := by
  intro c listed
  rw [decide_eq_false_iff_not]
  rintro rfl
  rcases Number.eq_minus_or_isDigit_of_mem listed with sign | digit
  · cases sign
  · cases digit

/-- A reference is read as the place that it was written for. -/
theorem parse?_text {k : CallbackKey} (statable : k.Statable) : parse? k.text = some k := by
  have digits : ∀ c ∈ Nat.toDigits 10 k.position, (c = ':' : Bool) = false := by
    intro c listed
    rw [decide_eq_false_iff_not]
    rintro rfl
    exact Number.not_mem_toDigits rfl listed
  have marked : ∀ c ∈ mark, (c = ':' : Bool) = false := by
    simp [mark]
  have parts : Text.splitAll (· = ':') k.text.toList =
      [mark, (toString k.chat).toList, (toString k.message).toList,
        Nat.toDigits 10 k.position] := by
    rw [toList_text, Text.splitAll_append_cons marked rfl,
      Text.splitAll_append_cons (colonFree_toString k.chat) rfl,
      Text.splitAll_append_cons (colonFree_toString k.message) rfl, Text.splitAll_of_whole digits]
  rw [parse?, parts]
  simp only [if_true, Number.readSigned?_toString statable.chat,
    Number.readSigned?_toString statable.message, Number.readUnsigned?_toDigits,
    if_pos statable.position]
  rfl

theorem ascii_text (k : CallbackKey) : ∀ c ∈ k.text.toList, c.toNat < 0x80 := by
  have digit {c : Char} (digit : c.isDigit = true) : c.toNat < 0x80 := by
    rw [Char.isDigit_iff_toNat] at digit
    exact Nat.lt_of_le_of_lt digit.2 (by decide)
  have integer {z : Int} {c : Char} (listed : c ∈ (toString z).toList) : c.toNat < 0x80 := by
    rcases Number.eq_minus_or_isDigit_of_mem listed with rfl | isDigit
    · decide
    · exact digit isDigit
  intro c listed
  simp only [toList_text, mark, List.mem_append, List.mem_cons, List.not_mem_nil,
    or_false] at listed
  rcases listed with (rfl | rfl) | rfl | chat | rfl | message | rfl | position
  · decide
  · decide
  · decide
  · exact integer chat
  · decide
  · exact integer message
  · decide
  · exact digit (Number.isDigit_of_mem_toDigits position)

/-- A reference to a place that can be stated takes at most 56 characters. -/
theorem length_text_le {k : CallbackKey} (statable : k.Statable) : k.text.toList.length ≤ 56 := by
  have chat : (toString k.chat).toList.length ≤ 20 :=
    Number.length_toString_le statable.chat (by decide) (by decide)
  have message : (toString k.message).toList.length ≤ 11 :=
    Number.length_toString_le statable.message (by decide) (by decide)
  have position : (Nat.toDigits 10 k.position).length ≤ 20 := by
    apply (Nat.length_toDigits_le_iff (by decide) (by decide)).2
    exact Nat.lt_trans statable.position (by decide)
  simp only [toList_text, mark, List.length_append, List.length_cons, List.length_nil]
  omega

/-- A reference can travel on a button. -/
theorem fitsCallback_text {k : CallbackKey} (statable : k.Statable) :
    fitsCallback k.text = true := by
  have ascii := k.ascii_text
  have short := length_text_le statable
  rw [fitsCallback_iff, Text.utf8ByteSize_of_ascii ascii]
  exact ⟨Nat.le_trans short (by decide), ascii⟩

end CallbackKey

/-! ## Actions -/

namespace Action

theorem toList_text_button (node : NodeId) (index : Nat) :
    (Action.button node index).text.toList =
      'b' :: ':' :: (node.toList ++ ':' :: Nat.toDigits 10 index) := by
  have spelled : (Action.button node index).text = "b:" ++ node ++ ":" ++ toString index := rfl
  rw [spelled, Nat.toString_eq_ofList_toDigits]
  simp [String.toList_append]

theorem toList_text_toggle (node : NodeId) (index : Nat) :
    (Action.toggle node index).text.toList =
      't' :: ':' :: (node.toList ++ ':' :: Nat.toDigits 10 index) := by
  have spelled : (Action.toggle node index).text = "t:" ++ node ++ ":" ++ toString index := rfl
  rw [spelled, Nat.toString_eq_ofList_toDigits]
  simp [String.toList_append]

theorem toList_text_done (node : NodeId) :
    (Action.done node).text.toList = 'd' :: ':' :: node.toList := by
  have spelled : (Action.done node).text = "d:" ++ node := rfl
  rw [spelled]
  simp [String.toList_append]

/-- The text of an action is no reference. -/
theorem take_text (a : Action) : a.text.toList.take 2 ≠ CallbackKey.mark := by
  cases a with
  | button node index => rw [toList_text_button]; simp [CallbackKey.mark]
  | toggle node index => rw [toList_text_toggle]; simp [CallbackKey.mark]
  | done node => rw [toList_text_done]; simp [CallbackKey.mark]

/-- The action can be stated as a text. -/
def Statable : Action → Prop
  | .button node index => node.toList ≠ [] ∧ index < Number.unsigned64
  | .toggle node index => node.toList ≠ [] ∧ index < Number.unsigned64
  | .done node => node.toList ≠ []

instance (a : Action) : Decidable a.Statable := by
  unfold Statable
  split <;> infer_instance

theorem indexed?_toDigits (node : NodeId) (index : Nat) :
    indexed? (node.toList ++ ':' :: Nat.toDigits 10 index) =
      if node.toList ≠ [] ∧ index < Number.unsigned64 then some (node, index) else none := by
  have split : Text.splitLast? ':' (node.toList ++ ':' :: Nat.toDigits 10 index) =
      some (node.toList, Nat.toDigits 10 index) :=
    Text.splitLast?_eq_some_iff.2 ⟨rfl, Number.not_mem_toDigits rfl⟩
  rw [indexed?, split]
  by_cases named : node.toList = []
  · simp [named]
  · by_cases small : index < Number.unsigned64
    · simp [named, Number.readUnsigned?_toDigits, small]
    · simp [named, Number.readUnsigned?_toDigits, small]

theorem splitFirst?_kind {kind : Char} (rest : List Char) (plain : kind ≠ ':') :
    Text.splitFirst? ':' (kind :: ':' :: rest) = some ([kind], rest) := by
  apply Text.splitFirst?_eq_some_iff.2
  refine ⟨rfl, ?_⟩
  rw [List.mem_singleton]
  exact plain.symm

/-- The text of an action is read as that action, if it can be stated, and else not at all. -/
theorem parse?_text (a : Action) : parse? a.text = if a.Statable then some a else none := by
  cases a with
  | button node index =>
      rw [parse?, toList_text_button, splitFirst?_kind _ (by decide)]
      show (indexed? _).map _ = _
      rw [indexed?_toDigits]
      by_cases statable : (Action.button node index).Statable
      · have conditions : node.toList ≠ [] ∧ index < Number.unsigned64 := statable
        rw [if_pos conditions, if_pos statable]
        rfl
      · have conditions : ¬ (node.toList ≠ [] ∧ index < Number.unsigned64) := statable
        rw [if_neg conditions, if_neg statable]
        rfl
  | toggle node index =>
      rw [parse?, toList_text_toggle, splitFirst?_kind _ (by decide)]
      show (indexed? _).map _ = _
      rw [indexed?_toDigits]
      by_cases statable : (Action.toggle node index).Statable
      · have conditions : node.toList ≠ [] ∧ index < Number.unsigned64 := statable
        rw [if_pos conditions, if_pos statable]
        rfl
      · have conditions : ¬ (node.toList ≠ [] ∧ index < Number.unsigned64) := statable
        rw [if_neg conditions, if_neg statable]
        rfl
  | done node =>
      rw [parse?, toList_text_done, splitFirst?_kind _ (by decide)]
      show (if node.toList.isEmpty then _ else some (Action.done (String.ofList node.toList))) =
        if node.toList ≠ [] then _ else _
      rw [String.ofList_toList]
      by_cases named : node.toList = []
      · simp [named]
      · simp [named]

theorem eq_of_parse?_text {a b : Action} (read : parse? a.text = some b) : b = a := by
  rw [parse?_text] at read
  split at read
  · exact (Option.some.inj read).symm
  · cases read

end Action

end Dialogue
