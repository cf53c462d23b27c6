/-
# The forms of answers

What a prompt accepts, said as a grammar: an answer is put together from parts, each over its own
characters. The checks take a text apart instead, from one end or the other. An address may be taken
apart in several ways by the grammar, since its domain may hold the dot that divides it; a check has
to find one of them whenever there is one.

`Prompt.Judged` says which verdict a text deserves: the blanks at its ends do not count, its length
is judged first and its form last. The main statement is that every text gets exactly that verdict.
-/

import Dialogue.Answer
import Dialogue.Proofs.Text.Latin
import Dialogue.Proofs.Text.Trim

namespace Dialogue

namespace Answer

/-! ## Addresses -/

/-- A character before the sign `@`. -/
def InMailbox (c : Char) : Prop :=
  Text.IsLetter c ∨ Text.IsDigit c ∨ c ∈ ['.', '_', '%', '+', '-']

/-- A character after the sign `@`. -/
def InDomain (c : Char) : Prop := Text.IsLetter c ∨ Text.IsDigit c ∨ c = '.' ∨ c = '-'

/-- An address: a mailbox, a domain, and two or more letters after a dot. -/
inductive Address : List Char → Prop
  | intro {mailbox host top : List Char} (addressed : mailbox ≠ [])
      (mailboxChars : ∀ c ∈ mailbox, InMailbox c) (hosted : host ≠ [])
      (hostChars : ∀ c ∈ host, InDomain c) (long : 2 ≤ top.length)
      (letters : ∀ c ∈ top, Text.IsLetter c) :
      Address (mailbox ++ '@' :: (host ++ '.' :: top))

theorem isMailboxChar_iff {c : Char} : isMailboxChar c = true ↔ InMailbox c := by
  rw [isMailboxChar, Bool.or_eq_true, Text.isAlphanum_iff, decide_eq_true_iff, or_assoc, InMailbox]

theorem isDomainChar_iff {c : Char} : isDomainChar c = true ↔ InDomain c := by
  rw [isDomainChar, Bool.or_eq_true, Bool.or_eq_true, Text.isAlphanum_iff, decide_eq_true_iff,
    decide_eq_true_iff, or_assoc, or_assoc, InDomain]

theorem isDomain_iff {cs : List Char} :
    isDomain cs = true ↔ ∃ host top, cs = host ++ '.' :: top ∧ host ≠ [] ∧
      (∀ c ∈ host, InDomain c) ∧ 2 ≤ top.length ∧ ∀ c ∈ top, Text.IsLetter c := by
  constructor
  · intro holds
    rw [isDomain] at holds
    split at holds
    · next host top divided =>
        simp only [Bool.and_eq_true, Bool.not_eq_true', List.isEmpty_eq_false_iff,
          List.all_eq_true, decide_eq_true_eq, isDomainChar_iff, Text.isAlpha_iff] at holds
        obtain ⟨⟨⟨hosted, hostChars⟩, long⟩, letters⟩ := holds
        exact ⟨host, top, (Text.splitLast?_eq_some_iff.1 divided).1, hosted, hostChars, long,
          letters⟩
    · cases holds
  · rintro ⟨host, top, rfl, hosted, hostChars, long, letters⟩
    -- No letter is a dot, so the last dot is the one before the letters.
    have dotFree : '.' ∉ top := fun listed => absurd (letters '.' listed) (by decide)
    rw [isDomain, Text.splitLast?_eq_some_iff.2 ⟨rfl, dotFree⟩]
    simp only [Bool.and_eq_true, Bool.not_eq_true', List.isEmpty_eq_false_iff, List.all_eq_true,
      decide_eq_true_eq, isDomainChar_iff, Text.isAlpha_iff]
    exact ⟨⟨⟨hosted, hostChars⟩, long⟩, letters⟩

theorem isEmail_iff {cs : List Char} : isEmail cs = true ↔ Address cs := by
  constructor
  · intro holds
    rw [isEmail] at holds
    split at holds
    · next mailbox domain divided =>
        simp only [Bool.and_eq_true, Bool.not_eq_true', List.isEmpty_eq_false_iff,
          List.all_eq_true, isMailboxChar_iff] at holds
        obtain ⟨⟨addressed, mailboxChars⟩, domain⟩ := holds
        obtain ⟨host, top, rfl, hosted, hostChars, long, letters⟩ := isDomain_iff.1 domain
        rw [(Text.splitFirst?_eq_some_iff.1 divided).1]
        exact .intro addressed mailboxChars hosted hostChars long letters
    · cases holds
  · intro address
    cases address with
    | @intro mailbox host top addressed mailboxChars hosted hostChars long letters =>
        have signFree : '@' ∉ mailbox := by
          intro listed
          cases isMailboxChar_iff.2 (mailboxChars '@' listed)
        rw [isEmail, Text.splitFirst?_eq_some_iff.2 ⟨rfl, signFree⟩]
        simp only [Bool.and_eq_true, Bool.not_eq_true', List.isEmpty_eq_false_iff,
          List.all_eq_true, isMailboxChar_iff]
        exact ⟨⟨addressed, mailboxChars⟩,
          isDomain_iff.2 ⟨host, top, rfl, hosted, hostChars, long, letters⟩⟩

/-! ## Numbers -/

/-- One or more decimal digits, of any script. -/
structure Digits (cs : List Char) : Prop where
  nonempty : cs ≠ []
  digits : ∀ c ∈ cs, Text.isDecimalDigit c = true

/-- A number: perhaps a sign, some digits, and perhaps more digits after a point or a comma. -/
inductive Amount : List Char → Prop
  | whole {sign digits : List Char} (signed : sign ∈ [[], ['+'], ['-']]) (whole : Digits digits) :
      Amount (sign ++ digits)
  | fraction {sign digits fraction : List Char} {mark : Char} (signed : sign ∈ [[], ['+'], ['-']])
      (whole : Digits digits) (divided : mark = '.' ∨ mark = ',') (part : Digits fraction) :
      Amount (sign ++ (digits ++ mark :: fraction))

theorem isDigits_iff {cs : List Char} : isDigits cs = true ↔ Digits cs := by
  rw [isDigits, Bool.and_eq_true, Bool.not_eq_true', List.isEmpty_eq_false_iff, List.all_eq_true]
  constructor
  · rintro ⟨nonempty, digits⟩
    exact ⟨nonempty, digits⟩
  · rintro ⟨nonempty, digits⟩
    exact ⟨nonempty, digits⟩

theorem exists_sign (cs : List Char) :
    ∃ sign, sign ∈ [[], ['+'], ['-']] ∧ cs = sign ++ dropSign cs := by
  unfold dropSign
  split
  · exact ⟨['+'], by simp, rfl⟩
  · exact ⟨['-'], by simp, rfl⟩
  · exact ⟨[], by simp, rfl⟩

/-- A sign is dropped, and a digit is not taken for one. -/
theorem dropSign_append {sign digits : List Char} (signed : sign ∈ [[], ['+'], ['-']])
    (whole : Digits digits) (rest : List Char) :
    dropSign (sign ++ (digits ++ rest)) = digits ++ rest := by
  simp only [List.mem_cons, List.not_mem_nil, or_false] at signed
  rcases signed with rfl | rfl | rfl
  · cases digits with
    | nil => exact absurd rfl whole.nonempty
    | cons c digits =>
        have digit := whole.digits c List.mem_cons_self
        unfold dropSign
        split
        · next same =>
            cases same
            cases digit
        · next same =>
            cases same
            cases digit
        · rfl
  · rfl
  · rfl

theorem isNumber_iff {cs : List Char} : isNumber cs = true ↔ Amount cs := by
  constructor
  · intro holds
    obtain ⟨sign, signed, divided⟩ := exists_sign cs
    rw [isNumber, Bool.and_eq_true, Bool.not_eq_true', List.isEmpty_eq_false_iff] at holds
    obtain ⟨nonempty, rest⟩ := holds
    have whole : Digits ((dropSign cs).takeWhile Text.isDecimalDigit) :=
      ⟨nonempty, List.all_eq_true.1 List.all_takeWhile⟩
    have body := List.takeWhile_append_dropWhile (p := Text.isDecimalDigit) (l := dropSign cs)
    split at rest
    · next ended =>
        rw [ended, List.append_nil] at body
        rw [divided, ← body]
        exact .whole signed whole
    · next mark fraction left =>
        rw [left] at body
        rw [Bool.and_eq_true, Bool.or_eq_true, decide_eq_true_iff, decide_eq_true_iff] at rest
        rw [divided, ← body]
        exact .fraction signed whole rest.1 (isDigits_iff.1 rest.2)
  · intro amount
    cases amount with
    | @whole sign digits signed whole =>
        have unsigned := dropSign_append signed whole []
        rw [List.append_nil] at unsigned
        rw [isNumber, unsigned, List.takeWhile_eq_self_iff.2 whole.digits,
          List.dropWhile_eq_nil_iff.2 whole.digits]
        simp [whole.nonempty]
    | @fraction sign digits fraction mark signed whole divided part =>
        have stop : Text.isDecimalDigit mark = false := by
          rcases divided with rfl | rfl
          · rfl
          · rfl
        have taken : (digits ++ mark :: fraction).takeWhile Text.isDecimalDigit = digits := by
          rw [List.takeWhile_append_of_pos whole.digits,
            List.takeWhile_cons_of_neg (by simp [stop]), List.append_nil]
        have left : (digits ++ mark :: fraction).dropWhile Text.isDecimalDigit =
            mark :: fraction := by
          rw [List.dropWhile_append_of_pos whole.digits,
            List.dropWhile_cons_of_neg (by simp [stop])]
        rw [isNumber, dropSign_append signed whole _, taken, left]
        simp [whole.nonempty, divided, isDigits_iff.2 part]

/-! ## Telephone numbers -/

/-- A character of a telephone number. -/
def InPhoneNumber (c : Char) : Prop :=
  Text.IsDigit c ∨ Text.isBlank c = true ∨ c = '-' ∨ c = '(' ∨ c = ')'

/-- A telephone number: perhaps a plus sign, and at least ten characters. -/
inductive PhoneNumber : List Char → Prop
  | intro {sign body : List Char} (signed : sign = [] ∨ sign = ['+']) (long : 10 ≤ body.length)
      (chars : ∀ c ∈ body, InPhoneNumber c) : PhoneNumber (sign ++ body)

theorem isPhoneChar_iff {c : Char} : isPhoneChar c = true ↔ InPhoneNumber c := by
  rw [isPhoneChar, Bool.or_eq_true, Bool.or_eq_true, Bool.or_eq_true, Bool.or_eq_true,
    Text.isDigit_iff, decide_eq_true_iff, decide_eq_true_iff, decide_eq_true_iff, or_assoc,
    or_assoc, or_assoc, InPhoneNumber]

theorem isPhone_iff {cs : List Char} : isPhone cs = true ↔ PhoneNumber cs := by
  have checked {body : List Char} :
      (phoneLength ≤ body.length && body.all isPhoneChar) = true ↔
        10 ≤ body.length ∧ ∀ c ∈ body, InPhoneNumber c := by
    rw [Bool.and_eq_true, decide_eq_true_iff, List.all_eq_true]
    simp only [isPhoneChar_iff, phoneLength]
  constructor
  · intro holds
    unfold isPhone at holds
    split at holds
    · obtain ⟨long, chars⟩ := checked.1 holds
      exact .intro (.inr rfl) long chars
    · obtain ⟨long, chars⟩ := checked.1 holds
      exact .intro (.inl rfl) long chars
  · intro number
    cases number with
    | @intro sign body signed long chars =>
        rcases signed with rfl | rfl
        · unfold isPhone
          split
          · next rest same =>
              cases same
              cases isPhoneChar_iff.2 (chars '+' List.mem_cons_self)
          · exact checked.2 ⟨long, chars⟩
        · exact checked.2 ⟨long, chars⟩

/-! ## Verdicts -/

/-- An answer has the form that its kind asks for. -/
def Formed : AnswerKind → List Char → Prop
  | .text, _ => True
  | .email, cs => Address cs
  | .number, cs => Amount cs
  | .phone, cs => PhoneNumber cs

theorem hasForm_iff {kind : AnswerKind} {cs : List Char} :
    hasForm kind cs = true ↔ Formed kind cs := by
  cases kind with
  | text => exact iff_of_true rfl trivial
  | email => exact isEmail_iff
  | number => exact isNumber_iff
  | phone => exact isPhone_iff

/-- The rejection that a kind has for what does not have its form. -/
inductive Malformed : AnswerKind → Rejection → Prop
  | email : Malformed .email .invalidEmail
  | number : Malformed .number .invalidNumber
  | phone : Malformed .phone .invalidPhone

theorem Malformed.eq {kind : AnswerKind} {rejection : Rejection} (own : Malformed kind rejection) :
    formRejection kind = rejection := by
  cases own with
  | email => rfl
  | number => rfl
  | phone => rfl

end Answer

namespace Prompt

/-- An answer is not shorter than a prompt allows. -/
def LongEnough (p : Prompt) (answer : List Char) : Prop :=
  ∀ least, p.minLength = some least → least ≤ answer.length

/-- An answer is not longer than a prompt allows. -/
def ShortEnough (p : Prompt) (answer : List Char) : Prop :=
  ∀ most, p.maxLength = some most → answer.length ≤ most

/-- The verdict that a text deserves. -/
inductive Judged (p : Prompt) (text : String) : Except Rejection String → Prop
  | tooShort {answer : List Char} {least : Nat} (trims : Text.Trims text.toList answer)
      (bound : p.minLength = some least) (short : answer.length < least) :
      Judged p text (.error (.tooShort least))
  | tooLong {answer : List Char} {most : Nat} (trims : Text.Trims text.toList answer)
      (longEnough : p.LongEnough answer) (bound : p.maxLength = some most)
      (long : most < answer.length) : Judged p text (.error (.tooLong most))
  | accepted {answer : List Char} (trims : Text.Trims text.toList answer)
      (longEnough : p.LongEnough answer) (shortEnough : p.ShortEnough answer)
      (formed : Answer.Formed p.kind answer) : Judged p text (.ok (String.ofList answer))
  | malformed {answer : List Char} {rejection : Rejection} (trims : Text.Trims text.toList answer)
      (longEnough : p.LongEnough answer) (shortEnough : p.ShortEnough answer)
      (unformed : ¬ Answer.Formed p.kind answer) (own : Answer.Malformed p.kind rejection) :
      Judged p text (.error rejection)

theorem filter_minLength_eq_none_iff {p : Prompt} {answer : List Char} :
    p.minLength.filter (answer.length < ·) = none ↔ p.LongEnough answer := by
  simp [Option.filter_eq_none_iff, LongEnough]

theorem filter_maxLength_eq_none_iff {p : Prompt} {answer : List Char} :
    p.maxLength.filter (· < answer.length) = none ↔ p.ShortEnough answer := by
  simp [Option.filter_eq_none_iff, ShortEnough]

/-- A text gets the verdict that it deserves. -/
theorem judged_accept (p : Prompt) (text : String) : p.Judged text (p.accept text) := by
  have trims := Text.trims_trimChars text.toList
  rw [accept]
  split
  · next least _ short =>
      obtain ⟨bound, short⟩ := Option.filter_eq_some_iff.1 short
      exact .tooShort trims bound (of_decide_eq_true short)
  · next most longEnough long =>
      obtain ⟨bound, long⟩ := Option.filter_eq_some_iff.1 long
      exact .tooLong trims (filter_minLength_eq_none_iff.1 longEnough) bound
        (of_decide_eq_true long)
  · next longEnough shortEnough =>
      have longEnough := filter_minLength_eq_none_iff.1 longEnough
      have shortEnough := filter_maxLength_eq_none_iff.1 shortEnough
      split
      · next formed => exact .accepted trims longEnough shortEnough (Answer.hasForm_iff.1 formed)
      · next unformed =>
          have unformed : ¬ Answer.Formed p.kind (Text.trimChars text.toList) :=
            fun formed => unformed (Answer.hasForm_iff.2 formed)
          apply Judged.malformed trims longEnough shortEnough unformed
          cases kind : p.kind with
          | text =>
              rw [kind] at unformed
              exact absurd trivial unformed
          | email => exact .email
          | number => exact .number
          | phone => exact .phone

/-- A text deserves no other verdict than the one it gets. -/
theorem Judged.eq {p : Prompt} {text : String} {verdict : Except Rejection String}
    (judged : p.Judged text verdict) : p.accept text = verdict := by
  cases judged with
  | tooShort trims bound short =>
      rw [accept, trims.eq, bound, Option.filter_some, if_pos (decide_eq_true short)]
  | tooLong trims longEnough bound long =>
      rw [accept, trims.eq, filter_minLength_eq_none_iff.2 longEnough, bound, Option.filter_some,
        if_pos (decide_eq_true long)]
  | accepted trims longEnough shortEnough formed =>
      rw [accept, trims.eq, filter_minLength_eq_none_iff.2 longEnough,
        filter_maxLength_eq_none_iff.2 shortEnough]
      exact if_pos (Answer.hasForm_iff.2 formed)
  | malformed trims longEnough shortEnough unformed own =>
      rw [accept, trims.eq, filter_minLength_eq_none_iff.2 longEnough,
        filter_maxLength_eq_none_iff.2 shortEnough]
      exact (if_neg fun formed => unformed (Answer.hasForm_iff.1 formed)).trans
        (congrArg Except.error own.eq)

/-- The form and the lengths of an answer are those of the text without the blanks at its ends. -/
theorem accept_trim (p : Prompt) (text : String) : p.accept (Text.trim text) = p.accept text := by
  rw [accept, accept, Text.trim, String.toList_ofList, Text.trimChars_trimChars]

theorem eq_trim_of_accept {p : Prompt} {text answer : String}
    (accepted : p.accept text = .ok answer) : answer = Text.trim text := by
  have judged := p.judged_accept text
  rw [accepted] at judged
  cases judged with
  | accepted trims _ _ _ => rw [Text.trim, trims.eq]

/-- An accepted answer is accepted as it is. -/
theorem accept_of_accept {p : Prompt} {text answer : String}
    (accepted : p.accept text = .ok answer) : p.accept answer = .ok answer := by
  have trimmed : answer = Text.trim text := eq_trim_of_accept accepted
  calc
    p.accept answer = p.accept (Text.trim text) := by rw [trimmed]
    _ = p.accept text := p.accept_trim text
    _ = .ok answer := accepted

/-- **A prompt accepts exactly its grammar.** A text gets one verdict, the one it deserves: that it
is too short, or else that it is too long, or else that its form is wrong for the kind of the
prompt, or else that it is accepted without the blanks at its ends. What was accepted is accepted
again as it is. -/
theorem accept_exact (p : Prompt) (text : String) (verdict : Except Rejection String) :
    (p.accept text = verdict ↔ p.Judged text verdict) ∧
      ∀ answer, p.accept text = .ok answer → p.accept answer = .ok answer := by
  refine ⟨?_, fun answer accepted => accept_of_accept accepted⟩
  constructor
  · rintro rfl
    exact p.judged_accept text
  · intro judged
    exact judged.eq

example : ({ variableName := "mail", kind := .email } : Prompt).accept " x@..-.io " =
    .ok "x@..-.io" := by
  rfl

end Prompt

end Dialogue
