/-
This file defines the engine that the program runs with. It refuses patterns for the size of their
matchers.
-/

import Formwork.Pattern

namespace Formwork

/-- The size of the matcher of a template, in which each byte takes 32 units. -/
def Text.Glob.size (ends wildcard : Nat) : Text.Glob → Nat
  | [] => ends
  | some c :: glob => 32 * c.utf8Size + size ends wildcard glob
  | none :: glob => wildcard + size ends wildcard glob

/-- Whether the matchers of a pattern are small enough. A template has one that reads a text forwards
and one that reads it backwards, where a wildcard takes more units. -/
def Pattern.isSmall : Pattern → Bool
  | template glob => glob.size 192 464 ≤ 10485760 && glob.size 128 1040 ≤ 10485760
  | directive tag => (String.ofList tag).utf8ByteSize ≤ 324239

instance sizedEngine : PatternEngine where
  compiles := Pattern.isSmall

end Formwork
