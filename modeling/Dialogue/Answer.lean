/-
# Answers

What a user writes is an answer to a prompt if it has the right length and the right
form. Blanks around it do not count. The forms are those of an address for electronic
mail, of a decimal number and of a telephone number.
-/

import Dialogue.Flow.Basic
import Dialogue.Text.Digit
import Dialogue.Text.Split

namespace Dialogue

/-- Why an answer was not accepted. -/
inductive Rejection where
  | tooShort (least : Nat)
  | tooLong (most : Nat)
  | invalidEmail
  | invalidNumber
  | invalidPhone
deriving DecidableEq, Repr

namespace Rejection

/-- The reason, for a log. -/
def reason : Rejection → String
  | .tooShort least => s!"shorter than {least} characters"
  | .tooLong most => s!"longer than {most} characters"
  | .invalidEmail => "not an email address"
  | .invalidNumber => "not a number"
  | .invalidPhone => "not a phone number"

/-- The notice to the user, unless the prompt has its own. -/
def notice : Rejection → String
  | .tooShort least =>
      s!"❌ Слишком короткий ответ. Минимум символов: {least}. Попробуйте еще раз."
  | .tooLong most =>
      s!"❌ Слишком длинный ответ. Максимум символов: {most}. Попробуйте еще раз."
  | .invalidEmail => "❌ Неверный формат email. Попробуйте еще раз."
  | .invalidNumber => "❌ Введите корректное число."
  | .invalidPhone => "❌ Неверный формат номера телефона. Попробуйте еще раз."

end Rejection

namespace Answer

/-- A character of the part of an address before the sign `@`. -/
def isMailboxChar (c : Char) : Bool := c.isAlphanum || c ∈ ['.', '_', '%', '+', '-']

/-- A character of the part of an address after the sign `@`. -/
def isDomainChar (c : Char) : Bool := c.isAlphanum || c = '.' || c = '-'

/-- A domain ends in a dot and at least two letters. -/
def isDomain (cs : List Char) : Bool :=
  match Text.splitLast? '.' cs with
  | some (host, top) =>
      !host.isEmpty && host.all isDomainChar && 2 ≤ top.length && top.all Char.isAlpha
  | none => false

/-- An address for electronic mail. -/
def isEmail (cs : List Char) : Bool :=
  match Text.splitFirst? '@' cs with
  | some (mailbox, domain) => !mailbox.isEmpty && mailbox.all isMailboxChar && isDomain domain
  | none => false

/-- A character sequence without one sign in front. -/
def dropSign : List Char → List Char
  | '+' :: cs => cs
  | '-' :: cs => cs
  | cs => cs

/-- One or more decimal digits. -/
def isDigits (cs : List Char) : Bool := !cs.isEmpty && cs.all Text.isDecimalDigit

/-- A decimal number: a whole part, and perhaps a point or a comma and a fraction. -/
def isNumber (cs : List Char) : Bool :=
  let body := dropSign cs
  !(body.takeWhile Text.isDecimalDigit).isEmpty &&
    match body.dropWhile Text.isDecimalDigit with
    | [] => true
    | c :: fraction => (c = '.' || c = ',') && isDigits fraction

/-- A character of a telephone number. -/
def isPhoneChar (c : Char) : Bool :=
  c.isDigit || Text.isBlank c || c = '-' || c = '(' || c = ')'

/-- The least length of a telephone number, a sign in front not counted. -/
def phoneLength : Nat := 10

/-- A telephone number. -/
def isPhone (cs : List Char) : Bool :=
  let body := match cs with
    | '+' :: rest => rest
    | _ => cs
  phoneLength ≤ body.length && body.all isPhoneChar

/-- Whether an answer has the form that its kind asks for. -/
def hasForm : AnswerKind → List Char → Bool
  | .text, _ => true
  | .email, cs => isEmail cs
  | .number, cs => isNumber cs
  | .phone, cs => isPhone cs

/-- The rejection of an answer that does not have the form of its kind. -/
def formRejection : AnswerKind → Rejection
  | .email => .invalidEmail
  | .number => .invalidNumber
  | .text | .phone => .invalidPhone

end Answer

/-- The answer that a text gives to a prompt: the text without blanks at its ends, unless its
length or its form is wrong. The lengths are checked first. -/
def Prompt.accept (p : Prompt) (text : String) : Except Rejection String :=
  let answer := Text.trimChars text.toList
  match p.minLength.filter (answer.length < ·), p.maxLength.filter (· < answer.length) with
  | some least, _ => .error (.tooShort least)
  | none, some most => .error (.tooLong most)
  | none, none =>
      if Answer.hasForm p.kind answer then .ok (String.ofList answer)
      else .error (Answer.formRejection p.kind)

/-- The notice after an answer that was not accepted. -/
def Prompt.noticeOf (p : Prompt) (r : Rejection) : String := p.retryText.getD r.notice

end Dialogue
