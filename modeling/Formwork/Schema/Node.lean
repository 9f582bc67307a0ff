/-
This file defines the nodes of a schema.
-/

import Formwork.FieldType
import Formwork.Schema.Constraints

namespace Formwork

/-- What a schema says about one field, apart from the fields inside it. -/
structure FieldInfo extends Constraints where
  key : String
  type : FieldType
  /-- The values to choose from. An empty choice is not the same as none. -/
  options : Option (List Json) := none
  /-- The rules as they are shown. -/
  rules : List String := []
  /-- The type of the items of a list of scalars. -/
  childType : Option FieldType := none
  /-- An object that stands for a list of such objects. -/
  isList : Bool := false
  /-- The key is a template for keys. -/
  isPattern : Bool := false
  description : Option String := none
deriving DecidableEq

structure SchemaNode where
  info : FieldInfo
  /-- The fields of an object. -/
  schema : Option (List SchemaNode)

namespace FieldInfo

instance : Inhabited FieldInfo := ⟨{key := "", type := .text}⟩

/-- An object that stands for a list has the shape of a list. -/
def shape (info : FieldInfo) : Shape :=
  if info.type = .object ∧ info.isList then .list else info.type.shape

end FieldInfo

namespace SchemaNode

instance : Inhabited SchemaNode := ⟨default, none⟩

/-- A node without fields inside it. -/
def leaf (info : FieldInfo) : SchemaNode :=
  ⟨info, none⟩

def key (node : SchemaNode) : String :=
  node.info.key

def shape (node : SchemaNode) : Shape :=
  node.info.shape

def children (node : SchemaNode) : List SchemaNode :=
  node.schema.getD []

mutual

def same : SchemaNode → SchemaNode → Bool
  | ⟨left, none⟩, ⟨right, none⟩ => left = right
  | ⟨left, some lefts⟩, ⟨right, some rights⟩ => left = right && sameNodes lefts rights
  | _, _ => false

def sameNodes : List SchemaNode → List SchemaNode → Bool
  | [], [] => true
  | left :: lefts, right :: rights => same left right && sameNodes lefts rights
  | _, _ => false

end

mutual

theorem same_iff : (left right : SchemaNode) → (same left right = true ↔ left = right)
  | ⟨left, none⟩, ⟨right, none⟩ => by simp [same]
  | ⟨left, none⟩, ⟨right, some rights⟩ => by simp [same]
  | ⟨left, some lefts⟩, ⟨right, none⟩ => by simp [same]
  | ⟨left, some lefts⟩, ⟨right, some rights⟩ => by simp [same, sameNodes_iff lefts rights]

theorem sameNodes_iff :
    (lefts rights : List SchemaNode) → (sameNodes lefts rights = true ↔ lefts = rights)
  | [], rights => by cases rights <;> simp [sameNodes]
  | left :: lefts, rights => by
      cases rights with
      | nil => simp [sameNodes]
      | cons right rights => simp [sameNodes, same_iff left right, sameNodes_iff lefts rights]

end

instance : DecidableEq SchemaNode :=
  fun left right => decidable_of_iff _ (same_iff left right)

end SchemaNode

end Formwork
