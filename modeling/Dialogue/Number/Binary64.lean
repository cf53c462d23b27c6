/-
# Finite binary floating-point numbers

A double is kept as its exact parts, a sign, a mantissa of at most 53 bits and a
power of two, and all arithmetic on it is arithmetic of natural numbers followed by
one rounding. Infinities and not-a-number never arise: an overflow is `none`.

`Binary64.ofParts?` is the reading of a decimal: the leading digits are one rounded
number, the power of ten is another, and their rounded product or quotient is the
result. That is exact for short numbers and may be one unit off for long ones.
-/

namespace Dialogue.Number

/-- Divide and round to the nearest whole number, a half to the even neighbour. -/
def roundDiv (num den : Nat) : Nat :=
  let quotient := num / den
  let twice := 2 * (num % den)
  if twice < den then quotient
  else if den < twice then quotient + 1
  else quotient + quotient % 2

/-- A fraction times a power of two. -/
def scaleByTwo (num den : Nat) (power : Int) : Nat × Nat :=
  match power with
  | .ofNat p => (num * Nat.pow 2 p, den)
  | .negSucc p => (num, den * Nat.pow 2 (p + 1))

/-- The finite double `± mantissa · 2 ^ exponent`. -/
structure Binary64 where
  negative : Bool
  mantissa : Nat
  exponent : Int
deriving DecidableEq, Repr

namespace Binary64

/-- The least exponent; numbers below the normal range keep it and lose mantissa bits. -/
def minExponent : Int := -1074

/-- The greatest exponent. -/
def maxExponent : Int := 971

/-- Zero, with a sign. -/
def zero (negative : Bool) : Binary64 := ⟨negative, 0, minExponent⟩

/-- The whole part of the binary logarithm of a positive fraction. -/
def log2Div (num den : Nat) : Int :=
  let guess := (num.log2 : Int) - den.log2
  let scaled := scaleByTwo num den (-guess)
  if scaled.1 < scaled.2 then guess - 1 else guess

/-- The double nearest to a fraction, a tie going to the even mantissa; `none` when the fraction
lies beyond the largest double. -/
def ofFraction? (negative : Bool) (num den : Nat) : Option Binary64 :=
  if num = 0 then some (zero negative)
  else
    let exponent := max minExponent (log2Div num den - 52)
    let scaled := scaleByTwo num den (-exponent)
    let mantissa := roundDiv scaled.1 scaled.2
    let rounded : Binary64 :=
      if mantissa = Nat.pow 2 53 then ⟨negative, Nat.pow 2 52, exponent + 1⟩
      else ⟨negative, mantissa, exponent⟩
    if rounded.exponent ≤ maxExponent then some rounded else none

/-- The magnitude as a fraction. -/
def fraction (x : Binary64) : Nat × Nat := scaleByTwo x.mantissa 1 x.exponent

/-- The double nearest to a whole number. -/
def ofNat? (negative : Bool) (n : Nat) : Option Binary64 := ofFraction? negative n 1

/-- The rounded product; the sign is the first factor's. -/
def mul? (x y : Binary64) : Option Binary64 :=
  let a := x.fraction
  let b := y.fraction
  ofFraction? x.negative (a.1 * b.1) (a.2 * b.2)

/-- The rounded quotient; the sign is the dividend's. -/
def div? (x y : Binary64) : Option Binary64 :=
  let a := x.fraction
  let b := y.fraction
  ofFraction? x.negative (a.1 * b.2) (a.2 * b.1)

/-- The largest power of ten that is a double. -/
def maxTen : Nat := 308

/-- The double nearest to a power of ten. -/
def ten? (power : Nat) : Option Binary64 := ofFraction? false (Nat.pow 10 power) 1

/-- Divide by a power of ten, by at most `maxTen` places at a time. The first argument bounds the
number of divisions; a double is zero after three. -/
def divTen? : Nat → Binary64 → Nat → Option Binary64
  | 0, x, _ => some (zero x.negative)
  | fuel + 1, x, power =>
      if power ≤ maxTen then do x.div? (← ten? power)
      else if x.mantissa = 0 then some x
      else do divTen? fuel (← x.div? (← ten? maxTen)) (power - maxTen)

/-- The double read from a decimal `± significand · 10 ^ exponent`. -/
def ofParts? (negative : Bool) (significand : Nat) (exponent : Int) : Option Binary64 := do
  let x ← ofNat? negative significand
  match exponent with
  | .ofNat power =>
      if x.mantissa = 0 then some x
      else if power ≤ maxTen then x.mul? (← ten? power)
      else none
  | .negSucc power => divTen? 4 x (power + 1)

end Binary64

end Dialogue.Number
