/-
This file defines the editable fields that stand for the nodes of a schema.
-/

import Formwork.Schema.Node

namespace Formwork

/-- What a new item of a list looks like. -/
structure ChildDef where
  type : FieldType
  /-- The fields of an item that is an object. -/
  schema : Option (List SchemaNode)
deriving DecidableEq

structure InstanceNode where
  key : String
  type : FieldType
  value : Json
  enabled : Bool
  children : List InstanceNode
  childDef : Option ChildDef
  /-- What the schema says about the field. This is never stored. -/
  info : Option FieldInfo

namespace ChildDef

/-- The items of a field that has the shape of a list. -/
def ofNode? (node : SchemaNode) : Option ChildDef :=
  if node.shape = .list then
    some (if node.info.type = .object then ⟨.object, some node.children⟩
      else ⟨node.info.childType.getD .text, none⟩)
  else none

end ChildDef

namespace InstanceNode

/-- A new field without anything inside. -/
def fresh (key : String) (type : FieldType) : InstanceNode :=
  { key := key, type := type, value := type.emptyValue, enabled := true, children := [],
    childDef := none, info := none }

instance : Inhabited InstanceNode := ⟨fresh "" .text⟩

def shape (node : InstanceNode) : Shape :=
  node.type.shape

mutual

/-- The field of a schema node before any edit. -/
def ofSchema : SchemaNode → InstanceNode
  | ⟨info, none⟩ =>
      { fresh info.key (if info.shape = .list then .array else info.type) with
        childDef := ChildDef.ofNode? ⟨info, none⟩
        info := some info }
  | ⟨info, some nodes⟩ =>
      let type := if info.shape = .list then .array else info.type
      { fresh info.key type with
        children := if type = .object then defaults nodes else []
        childDef := ChildDef.ofNode? ⟨info, some nodes⟩
        info := some info }

/-- The fields of a schema before any edit. -/
def defaults : List SchemaNode → List InstanceNode
  | [] => []
  | node :: rest => ofSchema node :: defaults rest

end

/-- Whether a value is no content at all. -/
def isEmptyValue : Json → Bool
  | .null => true
  | .str text => text.isEmpty
  | _ => false

/-- Whether a file is attached to the field itself. -/
def holdsFile (node : InstanceNode) : Bool :=
  node.type == .file && !isEmptyValue node.value

mutual

/-- The field as it is stored: without attached files and what the schema says. -/
def sanitized : InstanceNode → InstanceNode
  | ⟨key, type, value, enabled, children, childDef, _⟩ =>
      ⟨key, type, if type == .file && !isEmptyValue value then .null else value, enabled,
        sanitizedAll children, childDef, none⟩

def sanitizedAll : List InstanceNode → List InstanceNode
  | [] => []
  | node :: rest => sanitized node :: sanitizedAll rest

end

mutual

/-- Whether a file is attached to the field or inside it. -/
def hasFiles : InstanceNode → Bool
  | ⟨_, type, value, _, children, _, _⟩ =>
      (type == .file && !isEmptyValue value) || anyHasFiles children

def anyHasFiles : List InstanceNode → Bool
  | [] => false
  | node :: rest => hasFiles node || anyHasFiles rest

end

mutual

def same : InstanceNode → InstanceNode → Bool
  | ⟨key, type, value, enabled, children, childDef, info⟩, other =>
      key == other.key && type == other.type && value = other.value &&
        enabled == other.enabled && sameNodes children other.children &&
        childDef = other.childDef && info = other.info

def sameNodes : List InstanceNode → List InstanceNode → Bool
  | [], [] => true
  | left :: lefts, right :: rights => same left right && sameNodes lefts rights
  | _, _ => false

end

mutual

theorem same_iff : (left right : InstanceNode) → (same left right = true ↔ left = right)
  | ⟨key, type, value, enabled, children, childDef, info⟩, other => by
      cases other
      simp [same, sameNodes_iff children, and_assoc]

theorem sameNodes_iff :
    (lefts rights : List InstanceNode) → (sameNodes lefts rights = true ↔ lefts = rights)
  | [], rights => by cases rights <;> simp [sameNodes]
  | left :: lefts, rights => by
      cases rights with
      | nil => simp [sameNodes]
      | cons right rights => simp [sameNodes, same_iff left right, sameNodes_iff lefts rights]

end

instance : DecidableEq InstanceNode :=
  fun left right => decidable_of_iff _ (same_iff left right)

end InstanceNode

namespace ChildDef

/-- A new item, without a key. -/
def newItem (childDef : ChildDef) : InstanceNode :=
  { InstanceNode.fresh "" childDef.type with
    children := if childDef.type = .object then InstanceNode.defaults (childDef.schema.getD [])
      else [] }

end ChildDef

end Formwork
