/-
This file compiles the request payload of fields.
-/

import Formwork.Instance.Node
import Formwork.Number.Numeral

namespace Formwork

namespace FieldType

/-- The text that a pinned type turns a scalar into. -/
def pinnedValue : Json → Json
  | .num value => .str value.text
  | .bool true => .str "true"
  | .bool false => .str "false"
  | value => value

def truthOf : Json → Bool
  | .bool value => value
  | .str content => content != "false"
  | .num value => !value.isZero
  | _ => true

/-- A text that spells a number becomes this number, any other stays. -/
def numberOrText (content : String) : Json :=
  match Number.read? content.toList with
  | some value => .num value
  | none => .str content

/-- What a text becomes without a type that pins it or makes it a truth value. -/
def freeValue (type : FieldType) (content : String) : Json :=
  if !type.isNumeric && content == "true" then .bool true
  else if !type.isNumeric && content == "false" then .bool false
  else numberOrText content

/-- The value of a field as its type sends it. No content stays as it is. -/
def cast (type : FieldType) (value : Json) : Json :=
  if InstanceNode.isEmptyValue value then value
  else if type.isPinned then pinnedValue value
  else if type = .boolean then .bool (truthOf value)
  else
    match value with
    | .str content => type.freeValue content
    | value => value

end FieldType

namespace InstanceNode

mutual

/-- The value that a field contributes. -/
def payloadValue : InstanceNode → Json
  | ⟨_, type, value, _, children, _, _⟩ =>
      match type with
      | .object => .obj (Entries.settle (payloadMembers children))
      | .array => .arr (payloadItems children)
      | type => type.cast value

/-- The members of enabled fields that have a key. -/
def payloadMembers : List InstanceNode → List (String × Json)
  | [] => []
  | node :: rest =>
      if !node.enabled || node.key.isEmpty then payloadMembers rest
      else (node.key, payloadValue node) :: payloadMembers rest

/-- The values of enabled items. -/
def payloadItems : List InstanceNode → List Json
  | [] => []
  | node :: rest =>
      if node.enabled then payloadValue node :: payloadItems rest else payloadItems rest

end

end InstanceNode

/-- The body of a request. Of two fields with one key the later one gives the value. -/
def payload (nodes : List InstanceNode) : Json :=
  .obj (Entries.settle (InstanceNode.payloadMembers nodes))

end Formwork
