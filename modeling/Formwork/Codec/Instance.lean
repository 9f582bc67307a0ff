/-
This file reads and writes fields as JSON, as they are stored.
-/

import Formwork.Codec.Schema
import Formwork.Error
import Formwork.Instance.Node

namespace Formwork

open Document

namespace ChildDef

def names : List String :=
  ["type", "schema"]

def ofDocument? (document : Document) : Option ChildDef := do
  let part ← document.record? names
  some {
    type := ← (part "type").bind FieldType.ofDocument?
    schema := ← orElse none (nullable? SchemaNode.listOfDocument?) (part "schema") }

def toJson (childDef : ChildDef) : Json :=
  .obj (("type", childDef.type.toJson) ::
    Json.optionalMember "schema" (fun nodes => .arr (SchemaNode.nodesToJson nodes))
      childDef.schema)

end ChildDef

namespace InstanceNode

def names : List String :=
  ["key", "type", "value", "enabled", "children", "childDef"]

/-- How many parts come before the fields inside a field. -/
def childrenIndex : Nat := 4

/-- A field without the fields inside it. -/
def headOfDocument? (document : Document) : Option InstanceNode := do
  let part ← document.record? names
  some {
    key := ← (part "key").bind text?
    type := ← orElse .text FieldType.ofDocument? (part "type")
    value := ← orElse .null value? (part "value")
    enabled := ← orElse true bool? (part "enabled")
    children := []
    childDef := ← orElse none (nullable? ChildDef.ofDocument?) (part "childDef")
    info := none }

mutual

def ofDocument? : Document → Option InstanceNode
  | .obj members => do
      some { ← headOfDocument? (.obj members) with children := ← childrenMember? members }
  | .arr items => do
      some { ← headOfDocument? (.arr items) with
        children := ← childrenItem? childrenIndex items }
  | _ => none

/-- The fields inside a field, among its members. -/
def childrenMember? : List (Option String × Document) → Option (List InstanceNode)
  | [] => some []
  | (name, document) :: rest =>
      if name = some "children" then children? document else childrenMember? rest

/-- The fields inside a field, among its parts in order. -/
def childrenItem? : Nat → List Document → Option (List InstanceNode)
  | _, [] => some []
  | 0, document :: _ => children? document
  | index + 1, _ :: rest => childrenItem? index rest

def children? : Document → Option (List InstanceNode)
  | .arr items => ofDocuments? items
  | _ => none

def ofDocuments? : List Document → Option (List InstanceNode)
  | [] => some []
  | document :: rest => do some ((← ofDocument? document) :: (← ofDocuments? rest))

end

mutual

def toJson : InstanceNode → Json
  | ⟨key, type, value, enabled, children, childDef, _⟩ =>
      .obj ([("key", .str key), ("type", type.toJson), ("value", value),
        ("enabled", .bool enabled), ("children", .arr (nodesToJson children))] ++
        Json.optionalMember "childDef" ChildDef.toJson childDef)

def nodesToJson : List InstanceNode → List Json
  | [] => []
  | node :: rest => toJson node :: nodesToJson rest

end

end InstanceNode

namespace SavedState

/-- The stored form of fields. -/
def ofNodes (nodes : List InstanceNode) : Json :=
  .arr (InstanceNode.nodesToJson (InstanceNode.sanitizedAll nodes))

/-- The fields of a list or of an object with any names. Nothing stored is no fields. -/
def nodes (state : Json) : Except Error (List InstanceNode) :=
  let read (items : List Json) :=
    match InstanceNode.ofDocuments? (Json.itemDocuments items) with
    | some nodes => .ok nodes
    | none => .error .unreadableState
  match state with
  | .arr items => read items
  | .obj members => read (members.map (·.2))
  | .null => .ok []
  | scalar => .error (.scalarState scalar)

end SavedState

end Formwork
