/-
# The grammar of references

Which texts are read as a reference, and as which one. A reference is a mark and three numbers with
colons between them. The numbers are read generously, with a plus sign or zeros in front, so a place
has one text that is written and many that are read. `CallbackKey.Spelled` lists them all.

A reference and an action never have a text in common. A press that is no known reference is taken
for an action, so it matters that the two languages are apart, and not only the texts that are
written.
-/

import Dialogue.Proofs.Callback.Grammar

namespace Dialogue

/-! ## Signed numbers -/

namespace Number

/-- A way to write an integer from `-limit` up to but not including `limit`: a numeral, or digits
after a minus sign. -/
inductive SignedNumeral (limit : Nat) : List Char → Int → Prop
  | plain {cs : List Char} {n : Nat} (numeral : Numeral limit cs n) : SignedNumeral limit cs n
  | negated {cs : List Char} {n : Nat} (digits : DigitsOf cs n) (small : n ≤ limit) :
      SignedNumeral limit ('-' :: cs) (-n)

/-- A minus sign begins no numeral. -/
theorem Numeral.ne_minus {limit n : Nat} {cs : List Char} (numeral : Numeral limit cs n)
    (rest : List Char) : cs ≠ '-' :: rest := by
  rintro rfl
  rcases numeral.form with decimal | ⟨digits, same, _⟩
  · have digit := decimal.digits '-' List.mem_cons_self
    cases digit
  · cases (List.cons.inj same).1

/-- The reader of integers takes exactly the signed numerals. -/
theorem readSigned?_eq_some_iff {limit : Nat} {cs : List Char} {z : Int} :
    readSigned? limit cs = some z ↔ SignedNumeral limit cs z := by
  constructor
  · intro read
    unfold readSigned? at read
    split at read
    · next digits =>
        obtain ⟨m, cast, rfl⟩ := Option.map_eq_some_iff.1 read
        obtain ⟨n, bounded, same⟩ := Option.bind_eq_some_iff.1 cast
        obtain rfl : (n : Int) = m := Option.some.inj same
        obtain ⟨number, small⟩ := Option.filter_eq_some_iff.1 bounded
        exact .negated (ofDigits?_eq_some_iff.1 number) (of_decide_eq_true small)
    · obtain ⟨m, cast, rfl⟩ := Option.map_eq_some_iff.1 read
      obtain ⟨n, number, same⟩ := Option.bind_eq_some_iff.1 cast
      obtain rfl : (n : Int) = m := Option.some.inj same
      exact .plain (readUnsigned?_eq_some_iff.1 number)
  · intro signed
    cases signed with
    | plain numeral =>
        rw [readSigned?.eq_2 _ _ numeral.ne_minus, readUnsigned?_eq_some_iff.2 numeral]
        rfl
    | negated digits small =>
        rw [readSigned?, ofDigits?_eq_some_iff.2 digits]
        simp only [Option.filter_some, small, decide_true, if_true]
        rfl

theorem SignedNumeral.fits {limit : Nat} {cs : List Char} {z : Int}
    (signed : SignedNumeral limit cs z) (positive : 0 < limit) : Fits limit z := by
  cases signed with
  | plain numeral =>
      have small := numeral.small
      constructor
      · omega
      · omega
  | negated _ small =>
      constructor
      · omega
      · omega

/-- There is no colon in a signed numeral. -/
theorem SignedNumeral.colonFree {limit : Nat} {cs : List Char} {z : Int}
    (signed : SignedNumeral limit cs z) : ':' ∉ cs := by
  cases signed with
  | plain numeral => exact numeral.colonFree
  | negated digits _ =>
      intro listed
      rcases List.mem_cons.1 listed with sign | listed
      · cases sign
      · have digit := digits.digits ':' listed
        cases digit

end Number

/-! ## References -/

namespace CallbackKey

/-- The texts of a reference to a place. -/
inductive Spelled : CallbackKey → String → Prop
  | intro {chat message : Int} {position : Nat} {first second third : List Char}
      (chatNumber : Number.SignedNumeral Number.signed64 first chat)
      (messageNumber : Number.SignedNumeral Number.signed32 second message)
      (positionNumber : Number.Numeral Number.unsigned64 third position) :
      Spelled ⟨chat, message, position⟩
        ("cb:" ++ String.ofList first ++ ":" ++ String.ofList second ++ ":" ++ String.ofList third)

/-- The texts of a reference are read as its place. -/
theorem Spelled.parse?_eq {k : CallbackKey} {s : String} (spelled : k.Spelled s) :
    parse? s = some k := by
  have whole {cs : List Char} (colonFree : ':' ∉ cs) : ∀ c ∈ cs, (c = ':' : Bool) = false := by
    intro c listed
    rw [decide_eq_false_iff_not]
    rintro rfl
    exact colonFree listed
  obtain @⟨chat, message, position, first, second, third, chatNumber, messageNumber,
    positionNumber⟩ := spelled
  have parts : Text.splitAll (· = ':')
      ("cb:" ++ String.ofList first ++ ":" ++ String.ofList second ++ ":" ++
        String.ofList third).toList = [mark, first, second, third] := by
    have chars : ("cb:" ++ String.ofList first ++ ":" ++ String.ofList second ++ ":" ++
          String.ofList third).toList =
        mark ++ ':' :: (first ++ ':' :: (second ++ ':' :: third)) := by
      simp [mark]
    rw [chars, Text.splitAll_append_cons (whole (by decide)) rfl,
      Text.splitAll_append_cons (whole chatNumber.colonFree) rfl,
      Text.splitAll_append_cons (whole messageNumber.colonFree) rfl,
      Text.splitAll_of_whole (whole positionNumber.colonFree)]
  rw [parse?, parts]
  simp only [if_true, Number.readSigned?_eq_some_iff.2 chatNumber,
    Number.readSigned?_eq_some_iff.2 messageNumber,
    Number.readUnsigned?_eq_some_iff.2 positionNumber]
  rfl

/-- What is read as a reference is one of its texts. -/
theorem spelled_of_parse? {k : CallbackKey} {s : String} (read : parse? s = some k) :
    k.Spelled s := by
  unfold parse? at read
  split at read
  · next first chat message position parts =>
      split at read
      · next marked =>
          obtain ⟨chatId, chatRead, read⟩ := Option.bind_eq_some_iff.1 read
          obtain ⟨messageId, messageRead, read⟩ := Option.bind_eq_some_iff.1 read
          obtain ⟨place, positionRead, read⟩ := Option.bind_eq_some_iff.1 read
          obtain rfl := Option.some.inj read
          obtain rfl : s = "cb:" ++ String.ofList chat ++ ":" ++ String.ofList message ++ ":" ++
              String.ofList position := by
            have joined := Text.joinWith_splitAll ':' s.toList
            rw [parts, marked] at joined
            apply String.toList_inj.1
            rw [← joined]
            simp [Text.joinWith, mark]
          exact .intro (Number.readSigned?_eq_some_iff.1 chatRead)
            (Number.readSigned?_eq_some_iff.1 messageRead)
            (Number.readUnsigned?_eq_some_iff.1 positionRead)
      · cases read
  · cases read

/-- Only a place that can be stated has a text. -/
theorem Spelled.statable {k : CallbackKey} {s : String} (spelled : k.Spelled s) : k.Statable := by
  obtain ⟨chatNumber, messageNumber, positionNumber⟩ := spelled
  exact ⟨chatNumber.fits (by decide), messageNumber.fits (by decide), positionNumber.small⟩

/-- All texts of references begin with the mark. -/
theorem Spelled.take_eq {k : CallbackKey} {s : String} (spelled : k.Spelled s) :
    s.toList.take 2 = mark := by
  obtain ⟨_, _, _⟩ := spelled
  simp [mark]

end CallbackKey

/-- No text of an action begins with the mark of a reference. -/
theorem Action.Spelled.take_ne {a : Action} {s : String} (spelled : a.Spelled s) :
    s.toList.take 2 ≠ CallbackKey.mark := by
  cases spelled with
  | button _ _ => simp [CallbackKey.mark]
  | toggle _ _ => simp [CallbackKey.mark]
  | done _ => simp [CallbackKey.mark]

namespace CallbackKey

/-- **References are read as they are written.** The reference to a place that can be stated is read
as that place and can travel on a button. A text is read as a reference to a place exactly if it is
one of the texts of that place. Then the place can be stated, it is read again from the text that is
written for it, and no action is read from the text. -/
theorem reference_codec (k : CallbackKey) (s : String) :
    (k.Statable → parse? k.text = some k ∧ fitsCallback k.text = true) ∧
      (parse? s = some k ↔ k.Spelled s) ∧
      (parse? s = some k →
        k.Statable ∧ parse? k.text = some k ∧ ∀ a, Action.parse? s ≠ some a) := by
  refine ⟨fun statable => ⟨parse?_text statable, fitsCallback_text statable⟩,
    ⟨spelled_of_parse?, Spelled.parse?_eq⟩, ?_⟩
  intro read
  have spelled := spelled_of_parse? read
  refine ⟨spelled.statable, parse?_text spelled.statable, ?_⟩
  intro a acts
  exact (Action.spelled_of_parse? acts).take_ne spelled.take_eq

/-- The place with the least chat, the least message and the greatest position. -/
def outermost : CallbackKey := ⟨-9223372036854775808, -2147483648, 18446744073709551615⟩

theorem outermost_codec :
    outermost.Statable ∧ parse? outermost.text = some outermost ∧
      fitsCallback outermost.text = true ∧ ∀ a, Action.parse? outermost.text ≠ some a := by
  have statable : outermost.Statable := ⟨by decide, by decide, by decide⟩
  obtain ⟨written, -, read⟩ := reference_codec outermost outermost.text
  obtain ⟨same, fits⟩ := written statable
  exact ⟨statable, same, fits, (read same).2.2⟩

example : parse? "cb:+7:-0:007" = some ⟨7, 0, 7⟩ ∧ parse? "cb:9223372036854775808:0:0" = none ∧
    parse? "cb:0:0:-0" = none := by
  decide +kernel

end CallbackKey

end Dialogue
