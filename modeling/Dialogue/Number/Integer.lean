/-
# Integers as text

Reading integers of a bounded range from decimal digits. A plus sign is allowed
and leading zeros do not matter, so several texts may stand for one number; a sign
without digits, a blank or a digit of another script is refused. Formats that write
numbers in another base share its digits, which go up to `f` in either case.
-/

namespace Dialogue.Number

/-- One more than the largest position and user id. -/
def unsigned64 : Nat := Nat.pow 2 64

/-- One more than the largest chat id. -/
def signed64 : Nat := Nat.pow 2 63

/-- One more than the largest message id. -/
def signed32 : Nat := Nat.pow 2 31

/-- The number written by a non-empty run of ASCII digits. -/
def ofDigits? (cs : List Char) : Option Nat :=
  if !cs.isEmpty && cs.all Char.isDigit then some (Nat.ofDigitChars 10 cs 0) else none

/-- The value of a hexadecimal digit. -/
def hexDigit? (c : Char) : Option Nat :=
  if '0' ≤ c && c ≤ '9' then some (c.toNat - '0'.toNat)
  else if 'a' ≤ c && c ≤ 'f' then some (c.toNat - 'a'.toNat + 10)
  else if 'A' ≤ c && c ≤ 'F' then some (c.toNat - 'A'.toNat + 10)
  else none

/-- The number written by a non-empty run of digits in some base up to sixteen. -/
def ofDigitsIn? (base : Nat) (cs : List Char) : Option Nat :=
  if cs.isEmpty then none
  else cs.foldlM (fun n c => ((hexDigit? c).filter (· < base)).map fun d => n * base + d) 0

/-- The digits after an optional plus sign. -/
def dropPlus : List Char → List Char
  | '+' :: rest => rest
  | cs => cs

/-- A number below `limit`, written in digits with an optional plus sign. -/
def readUnsigned? (limit : Nat) (cs : List Char) : Option Nat :=
  (ofDigits? (dropPlus cs)).filter (· < limit)

/-- A number from `-limit` up to but not including `limit`, written in digits with an optional
sign. -/
def readSigned? (limit : Nat) : List Char → Option Int
  | '-' :: rest => ((ofDigits? rest).filter (· ≤ limit)).map fun n => -(n : Int)
  | cs => (readUnsigned? limit cs).map fun n => (n : Int)

/-- The digits of a number read back as that number. -/
theorem ofDigits?_toDigits (n : Nat) : ofDigits? (Nat.toDigits 10 n) = some n := by
  have hne : Nat.toDigits 10 n ≠ [] := by
    rw [Nat.toDigits_eq_if (by decide)]
    split <;> simp
  have hall : (Nat.toDigits 10 n).all Char.isDigit = true :=
    List.all_eq_true.2 fun c hc => Nat.isDigit_of_mem_toDigits (by decide) (by decide) hc
  simp [ofDigits?, hne, hall, Nat.ofDigitChars_toDigits]

end Dialogue.Number
