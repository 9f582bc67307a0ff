/-
This file brings stored fields together with a schema.
-/

import Formwork.CompileOptions
import Formwork.Instance.Node

namespace Formwork

variable [PatternEngine]

namespace SchemaNode

/-- Whether the key of a node is a template for the key. -/
def describes (wildcard key : String) (node : SchemaNode) : Bool :=
  node.info.isPattern && Text.globMatches wildcard node.key key

/-- The node for a key: the first with this key, else the first template for it. -/
def counterpart? (wildcard : String) (schema : List SchemaNode) (key : String) :
    Option SchemaNode :=
  schema.find? (·.key == key) <|> schema.find? (describes wildcard key)

/-- Where the node for a key stands. -/
def counterpartIndex? (wildcard : String) (schema : List SchemaNode) (key : String) :
    Option Nat :=
  schema.findIdx? (·.key == key) <|> schema.findIdx? (describes wildcard key)

end SchemaNode

namespace InstanceNode

/-- The default field of a schema node under another key. -/
def rebuilt (key : String) (counterpart : SchemaNode) : InstanceNode :=
  { ofSchema counterpart with key := key }

/-- A stored field whose shape is not that of its counterpart is stale. -/
def isStale (type : FieldType) : Option SchemaNode → Bool
  | none => false
  | some counterpart => type.shape != counterpart.shape

def counterpartChildren (counterpart : Option SchemaNode) : List SchemaNode :=
  (counterpart.map SchemaNode.children).getD []

mutual

/-- A stored field next to its counterpart. A stale field is built anew, any other keeps what it
holds. Only the fields of an object are reconciled themselves. -/
def reconcileNode (wildcard : String) (counterpart : Option SchemaNode) :
    InstanceNode → InstanceNode
  | ⟨key, type, value, enabled, children, childDef, _⟩ =>
      match counterpart, isStale type counterpart with
      | some node, true => rebuilt key node
      | _, _ =>
          { key := key
            type := type
            value := value
            enabled := enabled
            children :=
              match type.shape with
              | .object => reconcileFields wildcard (counterpartChildren counterpart) children
              | .list => children
              | .scalar => []
            childDef := childDef <|> counterpart.bind ChildDef.ofNode?
            info := counterpart.map (·.info) }

/-- The fields of one level. Without stored fields the schema alone decides. -/
def reconcileFields (wildcard : String) (schema : List SchemaNode) :
    List InstanceNode → List InstanceNode
  | [] => defaults schema
  | node :: rest =>
      reconcileNode wildcard (SchemaNode.counterpart? wildcard schema node.key) node ::
        reconcileRest wildcard schema rest

def reconcileRest (wildcard : String) (schema : List SchemaNode) :
    List InstanceNode → List InstanceNode
  | [] => []
  | node :: rest =>
      reconcileNode wildcard (SchemaNode.counterpart? wildcard schema node.key) node ::
        reconcileRest wildcard schema rest

end

end InstanceNode

/-- The fields of a schema with what was stored for them. Stored fields decide which fields there
are, unless there are none. -/
def reconcile (options : CompileOptions) (schema : List SchemaNode) (stored : List InstanceNode) :
    List InstanceNode :=
  InstanceNode.reconcileFields options.wildcard schema stored

end Formwork
