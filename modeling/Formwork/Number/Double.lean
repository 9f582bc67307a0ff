/-
This file defines the finite floating point numbers of 64 bits and rounds fractions to them.
-/

namespace Formwork

/-- How many times the smallest positive number fits into one. -/
def Double.unitsPerOne : Nat := 1 <<< 1074

/-- The absolute value of a finite floating point number: it stands for `significand <<< shift`
units, with all 53 bits of the significand in use unless it is too small for that. -/
structure Magnitude where
  significand : Nat
  shift : Nat
  canonical : significand < 1 <<< 53 ∧ shift ≤ 2045 ∧ (shift = 0 ∨ 1 <<< 52 ≤ significand)
deriving DecidableEq

structure Double where
  negative : Bool
  magnitude : Magnitude
deriving DecidableEq

namespace Magnitude

def zero : Magnitude := ⟨0, 0, by decide⟩

instance : Inhabited Magnitude := ⟨zero⟩

/-- The value in units. -/
def units (value : Magnitude) : Nat :=
  value.significand <<< value.shift

/-- The whole number nearest to a fraction; of two that are as near, the even one. -/
def roundFraction (numerator denominator : Nat) : Nat :=
  let quotient := numerator / denominator
  let rest := numerator % denominator
  if 2 * rest < denominator then quotient
  else if denominator < 2 * rest then quotient + 1
  else if quotient % 2 = 0 then quotient
  else quotient + 1

theorem quotient_le_roundFraction (numerator denominator : Nat) :
    numerator / denominator ≤ roundFraction numerator denominator := by
  unfold roundFraction
  dsimp only
  split
  · exact Nat.le_refl _
  · split
    · exact Nat.le_succ _
    · split
      · exact Nat.le_refl _
      · exact Nat.le_succ _

/-- The power of two that a fraction is cut at: the least one that leaves 53 bits before the point. -/
def shiftFor (numerator denominator : Nat) : Nat :=
  (numerator * Double.unitsPerOne / denominator).log2 - 52

/-- The significand of a fraction at the power of two it is cut at. -/
def significandFor (numerator denominator : Nat) : Nat :=
  roundFraction (numerator * Double.unitsPerOne) (denominator <<< shiftFor numerator denominator)

theorem full_significandFor (numerator denominator : Nat)
    (shifted : shiftFor numerator denominator ≠ 0) :
    1 <<< 52 ≤ significandFor numerator denominator := by
  apply Nat.le_trans _ (quotient_le_roundFraction _ _)
  rw [Nat.shiftLeft_eq, Nat.shiftLeft_eq, Nat.one_mul, ← Nat.div_div_eq_div_mul]
  generalize quotientEq : numerator * Double.unitsPerOne / denominator = quotient
  have shiftEq : shiftFor numerator denominator = quotient.log2 - 52 := by
    rw [shiftFor, quotientEq]
  have above : 52 ≤ quotient.log2 := by omega
  have nonzero : quotient ≠ 0 := by
    intro isZero
    rw [isZero] at above
    exact absurd above (by decide)
  rw [Nat.le_div_iff_mul_le (Nat.two_pow_pos _), ← Nat.pow_add, shiftEq,
    Nat.add_sub_cancel' above]
  exact Nat.log2_self_le nonzero

/-- The nearest finite number to a fraction, the one with the even significand if two are as near.
There is none for a fraction that lies half a step or more beyond the largest. -/
def ofFraction? (numerator denominator : Nat) : Option Magnitude :=
  if fits : significandFor numerator denominator < 1 <<< 53 then
    if inRange : shiftFor numerator denominator ≤ 2045 then
      some {
        significand := significandFor numerator denominator
        shift := shiftFor numerator denominator
        canonical := ⟨fits, inRange, by
          by_cases unshifted : shiftFor numerator denominator = 0
          · exact .inl unshifted
          · exact .inr (full_significandFor _ _ unshifted)⟩ }
    else none
  else if inRange : shiftFor numerator denominator + 1 ≤ 2045 then
    some ⟨1 <<< 52, shiftFor numerator denominator + 1, by decide, inRange, .inr (by decide)⟩
  else none

/-- The nearest finite number to `digits * 10 ^ exponent`. Powers of ten that only lead to zero or
beyond the largest number are not computed. -/
def ofDecimal? (digits : Nat) (exponent : Int) : Option Magnitude :=
  if digits = 0 then some zero
  else if 400 < exponent then none
  else if exponent < -(digits.log2 + 401 : Int) then some zero
  else if 0 ≤ exponent then ofFraction? (digits * Nat.pow 10 exponent.toNat) 1
  else ofFraction? digits (Nat.pow 10 (-exponent).toNat)

end Magnitude

namespace Double

def isZero (value : Double) : Bool :=
  value.magnitude.significand == 0

end Double

end Formwork
