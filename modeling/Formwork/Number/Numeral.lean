/-
This file reads the numerals that rules and editors hold.
-/

import Formwork.Number.Basic
import Formwork.Text.Trim

namespace Formwork

/-- A decimal numeral: `digits * 10 ^ exponent` and its sign. -/
structure Numeral where
  negative : Bool
  digits : Nat
  exponent : Int
deriving DecidableEq

namespace Numeral

def takeSign : List Char → Bool × List Char
  | '-' :: rest => (true, rest)
  | '+' :: rest => (false, rest)
  | rest => (false, rest)

def digitsValue (digits : List Char) : Nat :=
  digits.foldl (fun value digit => 10 * value + (digit.toNat - '0'.toNat)) 0

/-- The digits after a point, and what follows them. Without a point there are none. -/
def takeFraction : List Char → List Char × List Char
  | '.' :: rest => (rest.takeWhile Char.isDigit, rest.dropWhile Char.isDigit)
  | rest => ([], rest)

def allDigits (cs : List Char) : Bool :=
  !cs.isEmpty && cs.all Char.isDigit

def exponentDigits? (cs : List Char) : Option Int :=
  let (negative, digits) := takeSign cs
  if allDigits digits then
    some (if negative then -(digitsValue digits : Int) else digitsValue digits)
  else none

/-- The exponent that ends a numeral, zero if nothing is left. -/
def exponent? : List Char → Option Int
  | [] => some 0
  | 'e' :: rest => exponentDigits? rest
  | 'E' :: rest => exponentDigits? rest
  | _ => none

/-- A sign, digits with or without a point, at least one of them, and an exponent; the sign and the
exponent may be missing. -/
def read? (cs : List Char) : Option Numeral :=
  let (negative, unsigned) := takeSign cs
  let whole := unsigned.takeWhile Char.isDigit
  let (fraction, rest) := takeFraction (unsigned.dropWhile Char.isDigit)
  if whole.isEmpty && fraction.isEmpty then none
  else
    (exponent? rest).map fun exponent =>
      ⟨negative, digitsValue (whole ++ fraction), exponent - fraction.length⟩

/-- The number nearest to the numeral, unless it is too large to have one. -/
def nearest? (numeral : Numeral) : Option Double :=
  (Magnitude.ofDecimal? numeral.digits numeral.exponent).map (⟨numeral.negative, ·⟩)

/-- An integer in the range of 64 bits with a sign. -/
def integer? (cs : List Char) : Option Int :=
  let (negative, digits) := takeSign cs
  if allDigits digits then
    let value : Int := if negative then -(digitsValue digits : Int) else digitsValue digits
    if -0x8000000000000000 ≤ value ∧ value ≤ 0x7fffffffffffffff then some value else none
  else none

end Numeral

/-- The number that a text stands for: an integer where its digits fit, else the nearest floating
point number. -/
def Number.read? (cs : List Char) : Option Number :=
  let numeral := Text.trim cs
  match Numeral.integer? numeral with
  | some value => some (.int value)
  | none => ((Numeral.read? numeral).bind Numeral.nearest?).map .float

end Formwork
