/-
This file infers schemas from example bodies.
-/

import Formwork.Schema.Node
import Formwork.Text.Glob

namespace Formwork

/-- What an inferred field is described by. -/
def exampleDescription : String :=
  "Auto-extracted from example"

namespace FieldType

/-- The type of a scalar example. -/
def ofExample : Json → FieldType
  | .num _ => .number
  | .bool _ => .boolean
  | _ => .text

end FieldType

namespace FieldInfo

/-- The field of an example, before it is known what is inside. -/
def ofExample (wildcard key : String) (example_ : Json) : FieldInfo :=
  { key := key
    type := .ofExample example_
    nullable := example_.isNull
    isPattern := Text.isTemplate wildcard key
    description := some exampleDescription }

end FieldInfo

namespace SchemaNode

def isNested : Json → Bool
  | .obj _ => true
  | .arr _ => true
  | _ => false

mutual

/-- The fields of an example. A list is described by its first item. -/
def ofExample (wildcard : String) : Json → List SchemaNode
  | .obj members => ofMembers wildcard members
  | .arr items => ofFirst wildcard items
  | _ => []

def ofFirst (wildcard : String) : List Json → List SchemaNode
  | [] => []
  | first :: _ => ofExample wildcard first

def ofMembers (wildcard : String) : List (String × Json) → List SchemaNode
  | [] => []
  | (key, value) :: rest => ofMember wildcard key value :: ofMembers wildcard rest

/-- The field of a member. -/
def ofMember (wildcard key : String) : Json → SchemaNode
  | .obj members =>
      ⟨{ FieldInfo.ofExample wildcard key (.obj members) with type := .object },
        some (ofMembers wildcard members)⟩
  | .arr items =>
      let info := FieldInfo.ofExample wildcard key (.arr items)
      match items.head? with
      | none => leaf { info with type := .array, childType := some .text }
      | some first =>
          if isNested first then
            ⟨{ info with type := .object, isList := true }, some (ofFirst wildcard items)⟩
          else leaf { info with type := .array, childType := some (.ofExample first) }
  | value => leaf (FieldInfo.ofExample wildcard key value)

end

end SchemaNode

end Formwork
