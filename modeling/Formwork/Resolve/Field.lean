/-
This file compiles the rules of one field.
-/

import Formwork.Resolve.Clause
import Formwork.Resolve.Enumeration
import Formwork.Schema.Node

namespace Formwork.FieldInfo

/-- The last segment of a path. -/
def leafKey (path : String) : String :=
  String.ofList (Text.afterLast '.' path.toList)

/-- A choice makes a selection, and a custom rule names the type that nothing else tells. -/
def typeOf (choices : Option (List Json)) (customType : Option String)
    (resolution : TypeResolution) : FieldType :=
  if choices.isSome then .select
  else
    match resolution.tier, customType with
    | .fallback, some name => .ofName name
    | _, _ => resolution.type

def ofRules (options : CompileOptions) (path : String) (declaration : Declaration) : FieldInfo :=
  let tokens := declaration.tokens
  let choices := Enumeration.choices? declaration tokens
  { toConstraints := Constraints.ofTokens declaration tokens
    key := leafKey path
    type := typeOf choices (Enumeration.customType? options declaration)
      (resolveType options tokens)
    options := choices
    rules := shownTokens tokens }

end Formwork.FieldInfo
