/-
This file tells apart the two ways of reconciling a field: a field of the shape of its counterpart
is kept, and a stale one is rebuilt.
-/

import Formwork.Proofs.Instance.Levels
import Formwork.Proofs.Schema.Distinct

namespace Formwork

namespace FieldType

theorem shape_eq_object_iff (type : FieldType) : type.shape = .object ↔ type = .object := by
  cases type <;> simp [shape]

theorem shape_eq_list_iff (type : FieldType) : type.shape = .list ↔ type = .array := by
  cases type <;> simp [shape]

end FieldType

namespace InstanceNode

/-- A field has the shape of its counterpart, if it has one. -/
def Agrees (counterpart : Option SchemaNode) (node : InstanceNode) : Prop :=
  ∀ schema ∈ counterpart, node.shape = schema.shape

instance (counterpart : Option SchemaNode) (node : InstanceNode) :
    Decidable (Agrees counterpart node) :=
  match counterpart with
  | none => .isTrue nofun
  | some schema => decidable_of_iff (node.shape = schema.shape) (by simp [Agrees])

theorem isStale_iff (type : FieldType) (schema : SchemaNode) :
    isStale type (some schema) = true ↔ type.shape ≠ schema.shape := by
  simp [isStale]

/-- A field is kept, or it is stale and has a counterpart. -/
theorem agrees_or_stale (counterpart : Option SchemaNode) (node : InstanceNode) :
    Agrees counterpart node ∨ ∃ schema, counterpart = some schema ∧ node.shape ≠ schema.shape := by
  cases counterpart with
  | none => exact .inl nofun
  | some schema =>
      by_cases same : node.shape = schema.shape
      · exact .inl fun _ found => Option.some.inj found ▸ same
      · exact .inr ⟨schema, rfl, same⟩

section

variable [PatternEngine]

/-- The fields inside a field that is kept. -/
def keptInside (wildcard : String) (counterpart : Option SchemaNode) (node : InstanceNode) :
    List InstanceNode :=
  match node.shape with
  | .object => reconcileFields wildcard (counterpartChildren counterpart) node.children
  | .list => node.children
  | .scalar => []

/-- A field that is kept next to its counterpart. -/
def kept (wildcard : String) (counterpart : Option SchemaNode) (node : InstanceNode) :
    InstanceNode :=
  { node with
    children := keptInside wildcard counterpart node
    childDef := node.childDef <|> counterpart.bind ChildDef.ofNode?
    info := counterpart.map (·.info) }

@[simp]
theorem shape_kept (wildcard : String) (counterpart : Option SchemaNode) (node : InstanceNode) :
    (kept wildcard counterpart node).shape = node.shape := rfl

@[simp]
theorem children_kept (wildcard : String) (counterpart : Option SchemaNode) (node : InstanceNode) :
    (kept wildcard counterpart node).children = keptInside wildcard counterpart node := rfl

theorem reconcileNode_of_agrees (wildcard : String) {counterpart : Option SchemaNode}
    {node : InstanceNode} (agrees : Agrees counterpart node) :
    reconcileNode wildcard counterpart node = kept wildcard counterpart node := by
  obtain ⟨key, type, value, enabled, children, childDef, info⟩ := node
  cases counterpart with
  | none => rfl
  | some schema =>
      have current : isStale type (some schema) = false :=
        Bool.eq_false_iff.mpr fun stale => (isStale_iff type schema).mp stale (agrees schema rfl)
      simp only [reconcileNode, current]
      rfl

theorem reconcileNode_of_stale (wildcard : String) {schema : SchemaNode}
    {node : InstanceNode} (stale : node.shape ≠ schema.shape) :
    reconcileNode wildcard (some schema) node = rebuilt node.key schema := by
  obtain ⟨key, type, value, enabled, children, childDef, info⟩ := node
  have isStale : isStale type (some schema) = true := (isStale_iff type schema).mpr stale
  simp only [reconcileNode, isStale]

@[simp]
theorem key_reconcileNode (wildcard : String) (counterpart : Option SchemaNode)
    (node : InstanceNode) : (reconcileNode wildcard counterpart node).key = node.key := by
  rcases agrees_or_stale counterpart node with agrees | ⟨schema, rfl, stale⟩
  · rw [reconcileNode_of_agrees wildcard agrees, kept]
  · rw [reconcileNode_of_stale wildcard stale, rebuilt]

/-- A stored field next to its counterpart in a schema. -/
def reconcileIn (wildcard : String) (schema : List SchemaNode) (node : InstanceNode) :
    InstanceNode :=
  reconcileNode wildcard (SchemaNode.counterpart? wildcard schema node.key) node

theorem reconcileRest_eq_map (wildcard : String) (schema : List SchemaNode)
    (nodes : List InstanceNode) :
    reconcileRest wildcard schema nodes = nodes.map (reconcileIn wildcard schema) := by
  induction nodes with
  | nil => rfl
  | cons node rest inductionHypothesis =>
      rw [reconcileRest, inductionHypothesis, List.map_cons, reconcileIn]

theorem reconcileFields_nil (wildcard : String) (schema : List SchemaNode) :
    reconcileFields wildcard schema [] = defaults schema := rfl

/-- Stored fields are reconciled one by one. -/
theorem reconcileFields_eq_map (wildcard : String) (schema : List SchemaNode)
    {nodes : List InstanceNode} (stored : nodes ≠ []) :
    reconcileFields wildcard schema nodes = nodes.map (reconcileIn wildcard schema) := by
  cases nodes with
  | nil => exact absurd rfl stored
  | cons node rest => rw [reconcileFields, reconcileRest_eq_map, List.map_cons, reconcileIn]

/-- Stored fields keep their keys and their order. -/
theorem keys_reconcileFields (wildcard : String) (schema : List SchemaNode)
    {nodes : List InstanceNode} (stored : nodes ≠ []) :
    (reconcileFields wildcard schema nodes).map (·.key) = nodes.map (·.key) := by
  rw [reconcileFields_eq_map wildcard schema stored, List.map_map]
  exact List.map_congr_left fun node _ => key_reconcileNode wildcard _ node

end

theorem shape_ofSchema (schema : SchemaNode) : (ofSchema schema).shape = schema.shape := by
  have shapeOfType : (if schema.info.shape = .list then FieldType.array
      else schema.info.type).shape = schema.info.shape := by
    by_cases isList : schema.info.shape = .list
    · rw [if_pos isList, isList]
      rfl
    · rw [if_neg isList, FieldInfo.shape, if_neg]
      intro listObject
      exact isList (by rw [FieldInfo.shape, if_pos listObject])
  obtain ⟨info, _ | nodes⟩ := schema <;> exact shapeOfType

@[simp]
theorem shape_rebuilt (key : String) (schema : SchemaNode) :
    (rebuilt key schema).shape = schema.shape :=
  shape_ofSchema schema

theorem agrees_rebuilt (key : String) (schema : SchemaNode) :
    Agrees (some schema) (rebuilt key schema) := by
  intro other same
  rw [← Option.some.inj same, shape_rebuilt]

/-- The fields inside the default field of an object are those of its own schema. -/
theorem children_ofSchema (schema : SchemaNode) :
    (ofSchema schema).children =
      if schema.shape = .object then defaults schema.children else [] := by
  simp only [← shape_ofSchema, shape, FieldType.shape_eq_object_iff]
  obtain ⟨info, _ | nodes⟩ := schema
  · simp [ofSchema, fresh, SchemaNode.children, defaults]
  · rfl

theorem childDef_ofSchema (schema : SchemaNode) :
    (ofSchema schema).childDef = ChildDef.ofNode? schema := by
  obtain ⟨info, _ | nodes⟩ := schema <;> rfl

theorem info_ofSchema (schema : SchemaNode) : (ofSchema schema).info = some schema.info := by
  obtain ⟨info, _ | nodes⟩ := schema <;> rfl

theorem key_ofSchema (schema : SchemaNode) : (ofSchema schema).key = schema.key := by
  obtain ⟨info, _ | nodes⟩ := schema <;> rfl

/-- The default field of a schema node is rebuilt under the key of the node. -/
theorem rebuilt_key (schema : SchemaNode) : rebuilt schema.key schema = ofSchema schema := by
  rw [rebuilt, ← key_ofSchema]
  cases ofSchema schema
  rfl

theorem children_rebuilt (key : String) (schema : SchemaNode) :
    (rebuilt key schema).children =
      if schema.shape = .object then defaults schema.children else [] :=
  children_ofSchema schema

theorem childDef_rebuilt (key : String) (schema : SchemaNode) :
    (rebuilt key schema).childDef = ChildDef.ofNode? schema :=
  childDef_ofSchema schema

end InstanceNode

namespace SchemaNode

theorem allKeysDistinct_counterpartChildren {counterpart : Option SchemaNode}
    (distinct : ∀ schema ∈ counterpart, schema.KeysDistinct) :
    AllKeysDistinct (InstanceNode.counterpartChildren counterpart) := by
  cases counterpart with
  | none => exact ⟨List.nodup_nil, nofun⟩
  | some schema => exact (keysDistinct_iff schema).mp (distinct schema rfl)

end SchemaNode

end Formwork
