/-
This file defines the constraints on the values of a field.
-/

import Formwork.Number.Basic
import Formwork.SortedEntries

namespace Formwork

/-- A clause that makes a field required, prohibited or excluded under a condition. -/
structure Conditional where
  rule : String
  field : Option String := none
  fields : Option (List String) := none
  value : Option String := none
deriving DecidableEq

structure Constraints where
  required : Bool := false
  nullable : Bool := false
  confirmed : Bool := false
  min : Option Number := none
  max : Option Number := none
  pattern : Option String := none
  /-- The extensions of files, with their points and between commas. -/
  accept : Option String := none
  /-- The dimensions of images. -/
  dimensions : Option (SortedEntries String) := none
  conditionals : List Conditional := []
deriving DecidableEq

end Formwork
