/-
This file gives the values of the number literals of JSON texts.
-/

import Formwork.Number.Basic

namespace Formwork

namespace Magnitude

def product? (left right : Magnitude) : Option Magnitude :=
  ofFraction? (left.units * right.units) (Double.unitsPerOne * Double.unitsPerOne)

def quotient? (left right : Magnitude) : Option Magnitude :=
  ofFraction? left.units right.units

/-- The product or quotient with a power of ten, after rounding the power. Powers of ten beyond the
largest number divide in two steps. -/
def scaled? (value : Magnitude) (exponent : Int) : Option Magnitude :=
  if value.significand = 0 then some value
  else if 308 < exponent then none
  else if 0 ≤ exponent then do value.product? (← ofDecimal? 1 exponent)
  else if -308 ≤ exponent then do value.quotient? (← ofDecimal? 1 (-exponent))
  else if -616 ≤ exponent then do
    (← value.quotient? (← ofDecimal? 1 308)).quotient? (← ofDecimal? 1 (-exponent - 308))
  else some zero

end Magnitude

/-- A number literal of a JSON text, taken apart. -/
structure Literal where
  negative : Bool
  whole : List Nat
  fraction : Option (List Nat)
  exponent : Option Int

namespace Literal

/-- The leading digits that fit into 64 bits, and how many further digits there are. -/
def gather (value : Nat) : List Nat → Nat × Nat
  | [] => (value, 0)
  | digit :: rest =>
      if 10 * value + digit ≤ 0xffffffffffffffff then gather (10 * value + digit) rest
      else (value, rest.length + 1)

/-- A literal is an integer if it has neither fraction nor exponent, fits into 64 bits and is not a
negative zero. Otherwise its leading digits are rounded, and then scaled by the power of ten. -/
def number? (literal : Literal) : Option Number :=
  let (whole, dropped) := gather 0 literal.whole
  let sign (magnitude : Magnitude) : Number := .float ⟨literal.negative, magnitude⟩
  if literal.fraction.isNone && literal.exponent.isNone && dropped == 0 &&
      (!literal.negative || (0 < whole && whole ≤ 0x8000000000000000)) then
    some (.int (if literal.negative then -(whole : Int) else whole))
  else do
    let fraction := literal.fraction.getD []
    let (significand, cut) := gather whole fraction
    let places := (dropped : Int) - (fraction.length - cut : Nat)
    let start ← Magnitude.ofDecimal? significand 0
    (start.scaled? (places + literal.exponent.getD 0)).map sign

end Literal

end Formwork
