/-
This file defines the numbers of bounds and values: exact integers and floating point numbers.
-/

import Formwork.Number.Shortest

namespace Formwork

/-- An integer and a floating point number of the same value are two numbers. -/
inductive Number where
  | int (value : Int)
  | float (value : Double)
deriving DecidableEq

namespace Number

instance : Inhabited Number := ⟨int 0⟩

def integerChars (value : Int) : List Char :=
  match value with
  | .ofNat magnitude => Double.digitChars magnitude
  | .negSucc below => '-' :: Double.digitChars (below + 1)

/-- The one text of a number, in values and wherever a number becomes a text. -/
def text : Number → String
  | int value => String.ofList (integerChars value)
  | float value => String.ofList value.chars

def isZero : Number → Bool
  | int value => value == 0
  | float value => value.isZero

end Number

end Formwork
