/-
# The shortest decimal of a double

Among the decimals that read back as a given double, `shortest` takes one with the
fewest digits and, of those, the nearest. It tries one digit, then two, and so on up
to seventeen: on each decimal grid only the two neighbours of the value can lie in
the interval of numbers that round to it.
-/

import Dialogue.Number.Binary64

namespace Dialogue.Number

/-- The decimal `digits · 10 ^ exponent`, with no digit for zero and no zero at either end. -/
structure Decimal where
  digits : Nat
  exponent : Int
deriving DecidableEq, Repr

/-- Drop zeros at the end of the digits. The first argument bounds their number. -/
def Decimal.normalize : Nat → Decimal → Decimal
  | 0, d => d
  | fuel + 1, d =>
      if d.digits % 10 = 0 && d.digits != 0 then
        Decimal.normalize fuel ⟨d.digits / 10, d.exponent + 1⟩
      else d

/-- A fraction times a power of ten. -/
def scaleByTen (num den : Nat) (power : Int) : Nat × Nat :=
  match power with
  | .ofNat p => (num * Nat.pow 10 p, den)
  | .negSucc p => (num, den * Nat.pow 10 (p + 1))

/-- The whole part of the decimal logarithm of a positive fraction. -/
def log10Div (num den : Nat) : Int :=
  if den ≤ num then ((Nat.toDigits 10 (num / den)).length : Int) - 1
  else
    let places := (Nat.toDigits 10 (den / num)).length
    if den ≤ num * Nat.pow 10 (places - 1) then 1 - (places : Int) else -(places : Int)

namespace Binary64

/-- The half-way points to the neighbouring doubles, over one denominator. Below a power of two
the neighbour is only half as far away. -/
def roundingInterval (x : Binary64) : Nat × Nat × Nat :=
  let low :=
    if x.mantissa = Nat.pow 2 52 && x.exponent != minExponent then 4 * x.mantissa - 1
    else 4 * x.mantissa - 2
  let high := 4 * x.mantissa + 2
  match x.exponent - 2 with
  | .ofNat p => (low * Nat.pow 2 p, high * Nat.pow 2 p, 1)
  | .negSucc p => (low, high, Nat.pow 2 (p + 1))

/-- Whether a decimal on the grid of `10 ^ place` rounds to the double; the ends of the interval
belong to an even mantissa. -/
def roundsTo (x : Binary64) (digits : Nat) (place : Int) : Bool :=
  let (low, high, den) := x.roundingInterval
  let (num, den') := scaleByTen digits 1 place
  let value := num * den
  let low := low * den'
  let high := high * den'
  if x.mantissa % 2 = 0 then low ≤ value && value ≤ high else low < value && value < high

/-- The nearest decimal on a grid that reads back, if one of the two neighbours does. -/
def onGrid? (x : Binary64) (place : Int) : Option Decimal :=
  let (num, den) := x.fraction
  let (num, den) := scaleByTen num den (-place)
  let below := num / den
  let twice := 2 * (num % den)
  let above := below + 1
  match roundsTo x below place, roundsTo x above place with
  | true, true =>
      if twice < den || (twice = den && below % 2 = 0) then some ⟨below, place⟩
      else some ⟨above, place⟩
  | true, false => some ⟨below, place⟩
  | false, true => some ⟨above, place⟩
  | false, false => none

/-- The first hit on grids from coarse to fine. The first argument bounds the number of grids;
seventeen digits always suffice. -/
def firstOnGrid (x : Binary64) : Nat → Int → Decimal
  | 0, place => ⟨0, place⟩
  | fuel + 1, place =>
      match x.onGrid? place with
      | some d => d
      | none => firstOnGrid x fuel (place - 1)

/-- The shortest decimal that reads back as the double's magnitude. -/
def shortest (x : Binary64) : Decimal :=
  if x.mantissa = 0 then ⟨0, 0⟩
  else
    let (num, den) := x.fraction
    (firstOnGrid x 18 (log10Div num den)).normalize 20

end Binary64

end Dialogue.Number
