/-
This file writes floating point numbers with the fewest digits that read back.
-/

import Formwork.Number.Double

namespace Formwork.Magnitude

/-! All values here count quarters of a unit, so that the half-way points are whole numbers. -/

def quarters (value : Magnitude) : Nat :=
  4 * value.units

/-- The half-way point to the next number. -/
def upperEnd (value : Magnitude) : Nat :=
  value.quarters + (2 <<< value.shift)

/-- The half-way point to the previous number, which is closer below a power of two. -/
def lowerEnd (value : Magnitude) : Nat :=
  if value.significand = 1 <<< 52 ∧ 0 < value.shift then value.quarters - (1 <<< value.shift)
  else value.quarters - (2 <<< value.shift)

/-- Whether the fraction rounds to the value. The ends do when the significand is even. -/
def absorbs (value : Magnitude) (numerator denominator : Nat) : Bool :=
  if value.significand % 2 = 0 then
    value.lowerEnd * denominator ≤ numerator && numerator ≤ value.upperEnd * denominator
  else
    value.lowerEnd * denominator < numerator && numerator < value.upperEnd * denominator

/-- The step between multiples of `10 ^ exponent`, as a fraction of quarters. -/
def gridStep (exponent : Int) : Nat × Nat :=
  if 0 ≤ exponent then (4 * Double.unitsPerOne * Nat.pow 10 exponent.toNat, 1)
  else (4 * Double.unitsPerOne, Nat.pow 10 (-exponent).toNat)

/-- The multiple of `10 ^ exponent` nearest to the value, of two that are as near the even one. -/
def nearestOnGrid (value : Magnitude) (exponent : Int) : Nat :=
  let (stepNumerator, stepDenominator) := gridStep exponent
  roundFraction (value.quarters * stepDenominator) stepNumerator

/-- The nearest multiple of `10 ^ exponent` that reads back as the value. -/
def onGrid? (value : Magnitude) (exponent : Int) : Option Nat :=
  let (stepNumerator, stepDenominator) := gridStep exponent
  let below := value.quarters * stepDenominator / stepNumerator
  let nearest := value.nearestOnGrid exponent
  let other := if nearest = below then below + 1 else below
  if value.absorbs (nearest * stepNumerator) stepDenominator then some nearest
  else if value.absorbs (other * stepNumerator) stepDenominator then some other
  else none

/-- The first of the grids from `10 ^ exponent` downwards that holds a number that reads back. -/
def shortestFrom (value : Magnitude) (exponent : Int) : Nat → Nat × Int
  | 0 => (value.nearestOnGrid exponent, exponent)
  | grids + 1 =>
      match value.onGrid? exponent with
      | some digits => (digits, exponent)
      | none => value.shortestFrom (exponent - 1) grids

/-- A power of ten above the value, by a bound for the logarithm of two. -/
def exponentAbove (value : Magnitude) : Int :=
  (value.quarters.log2 + 1 - 1076 : Int) * 30103 / 100000 + 2

/-- The fewest digits, as a whole number, and the power of ten they count. No more than seventeen
digits are ever needed. -/
def shortest (value : Magnitude) : Nat × Int :=
  value.shortestFrom value.exponentAbove 24

end Formwork.Magnitude

namespace Formwork.Double

def digitChars (digits : Nat) : List Char :=
  Nat.toDigits 10 digits

/-- The exponent after its letter, always with a sign. -/
def exponentChars (exponent : Int) : List Char :=
  'e' :: (if exponent < 0 then '-' else '+') :: digitChars exponent.natAbs

/-- Digits times a power of ten: in plain notation from 10^-5 on and below 10^16, always with a
fraction, and otherwise with one digit before the point and no fraction of zero. -/
def layout (digits : List Char) (exponent : Int) : List Char :=
  let point := digits.length + exponent
  if 0 ≤ exponent ∧ point ≤ 16 then
    digits ++ List.replicate exponent.toNat '0' ++ ['.', '0']
  else if 0 < point ∧ point ≤ 16 then
    digits.take point.toNat ++ '.' :: digits.drop point.toNat
  else if -5 < point ∧ point ≤ 0 then
    '0' :: '.' :: List.replicate (-point).toNat '0' ++ digits
  else
    match digits with
    | [digit] => digit :: exponentChars (point - 1)
    | digits => digits.take 1 ++ '.' :: digits.drop 1 ++ exponentChars (point - 1)

def magnitudeChars (value : Magnitude) : List Char :=
  if value.significand = 0 then ['0', '.', '0']
  else
    let (digits, exponent) := value.shortest
    layout (digitChars digits) exponent

def chars (value : Double) : List Char :=
  if value.negative then '-' :: magnitudeChars value.magnitude
  else magnitudeChars value.magnitude

end Formwork.Double
