/-
This file follows a schema through the levels of fields that objects open: each field is looked at
next to its counterpart.
-/

import Formwork.Proofs.Reconcile.Idempotence

namespace Formwork

variable [PatternEngine]

namespace InstanceNode

mutual

/-- The field has the property next to its counterpart, and so have the fields inside an object next
to theirs. -/
def Throughout (property : Option SchemaNode → InstanceNode → Prop) (wildcard : String)
    (counterpart : Option SchemaNode) : InstanceNode → Prop
  | ⟨key, type, value, enabled, children, childDef, info⟩ =>
      property counterpart ⟨key, type, value, enabled, children, childDef, info⟩ ∧
        (type.shape = .object →
          AllThroughout property wildcard (counterpartChildren counterpart) children)

def AllThroughout (property : Option SchemaNode → InstanceNode → Prop) (wildcard : String)
    (schema : List SchemaNode) : List InstanceNode → Prop
  | [] => True
  | node :: rest =>
      Throughout property wildcard (SchemaNode.counterpart? wildcard schema node.key) node ∧
        AllThroughout property wildcard schema rest

end

section

variable {property : Option SchemaNode → InstanceNode → Prop} {wildcard : String}

theorem allThroughout_iff (schema : List SchemaNode) (nodes : List InstanceNode) :
    AllThroughout property wildcard schema nodes ↔
      ∀ node ∈ nodes,
        Throughout property wildcard (SchemaNode.counterpart? wildcard schema node.key) node := by
  induction nodes with
  | nil => simp [AllThroughout]
  | cons node rest inductionHypothesis =>
      rw [AllThroughout, inductionHypothesis, List.forall_mem_cons]

theorem throughout_iff (counterpart : Option SchemaNode) (node : InstanceNode) :
    Throughout property wildcard counterpart node ↔
      property counterpart node ∧
        (node.shape = .object →
          AllThroughout property wildcard (counterpartChildren counterpart) node.children) := by
  cases node
  rw [Throughout]
  rfl

mutual

def decidableThroughout [∀ counterpart node, Decidable (property counterpart node)]
    (counterpart : Option SchemaNode) :
    (node : InstanceNode) → Decidable (Throughout property wildcard counterpart node)
  | ⟨key, type, value, enabled, children, childDef, info⟩ =>
      have := decidableAllThroughout (counterpartChildren counterpart) children
      inferInstanceAs (Decidable
        (property counterpart ⟨key, type, value, enabled, children, childDef, info⟩ ∧
          (type.shape = .object →
            AllThroughout property wildcard (counterpartChildren counterpart) children)))

def decidableAllThroughout [∀ counterpart node, Decidable (property counterpart node)]
    (schema : List SchemaNode) :
    (nodes : List InstanceNode) → Decidable (AllThroughout property wildcard schema nodes)
  | [] => .isTrue trivial
  | node :: rest =>
      have := decidableThroughout (SchemaNode.counterpart? wildcard schema node.key) node
      have := decidableAllThroughout schema rest
      inferInstanceAs (Decidable
        (Throughout property wildcard (SchemaNode.counterpart? wildcard schema node.key) node ∧
          AllThroughout property wildcard schema rest))

end

instance [∀ counterpart node, Decidable (property counterpart node)] (schema : List SchemaNode)
    (nodes : List InstanceNode) : Decidable (AllThroughout property wildcard schema nodes) :=
  decidableAllThroughout schema nodes

/-- The default fields of a schema have the property if each of them has it throughout. -/
theorem allThroughout_defaults_of {schema : List SchemaNode}
    (distinct : SchemaNode.AllKeysDistinct schema)
    (each : ∀ node ∈ schema, Throughout property wildcard (some node) (ofSchema node)) :
    AllThroughout property wildcard schema (defaults schema) := by
  rw [allThroughout_iff, defaults_eq_map]
  intro field member
  obtain ⟨node, nodeMember, rfl⟩ := List.mem_map.mp member
  rw [key_ofSchema, SchemaNode.counterpart?_key_of_mem wildcard distinct nodeMember]
  exact each node nodeMember

variable (ofStep : ∀ counterpart node,
  property counterpart (reconcileNode wildcard counterpart node))
include ofStep

theorem throughout_rebuilt {schema : SchemaNode} (distinct : schema.KeysDistinct) (key : String) :
    Throughout property wildcard (some schema) (rebuilt key schema) := by
  induction schema using SchemaNode.induction generalizing key with
  | inside schema inductionHypothesis =>
      have distinctInside := (SchemaNode.keysDistinct_iff schema).mp distinct
      rw [throughout_iff, shape_rebuilt, children_rebuilt]
      constructor
      · rw [← reconcileNode_rebuilt wildcard distinct key]
        exact ofStep (some schema) (rebuilt key schema)
      · intro isObject
        rw [if_pos isObject]
        apply allThroughout_defaults_of distinctInside
        intro node member
        rw [← rebuilt_key]
        exact inductionHypothesis node member
          (SchemaNode.keysDistinct_of_mem distinctInside member) node.key

theorem allThroughout_reconcileFields_of {schema : List SchemaNode} {nodes : List InstanceNode}
    (distinct : SchemaNode.AllKeysDistinct schema)
    (each : ∀ node ∈ nodes, ∀ counterpart : Option SchemaNode,
      (∀ schema ∈ counterpart, schema.KeysDistinct) →
        Throughout property wildcard counterpart (reconcileNode wildcard counterpart node)) :
    AllThroughout property wildcard schema (reconcileFields wildcard schema nodes) := by
  by_cases empty : nodes = []
  · rw [empty, reconcileFields_nil]
    apply allThroughout_defaults_of distinct
    intro node member
    rw [← rebuilt_key]
    exact throughout_rebuilt ofStep (SchemaNode.keysDistinct_of_mem distinct member) node.key
  · rw [reconcileFields_eq_map wildcard schema empty, allThroughout_iff]
    intro field member
    obtain ⟨node, nodeMember, rfl⟩ := List.mem_map.mp member
    rw [reconcileIn, key_reconcileNode]
    exact each node nodeMember _ (SchemaNode.keysDistinct_of_counterpart? distinct)

/-- What reconciling gives every field next to its counterpart, it gives all fields that objects
open. -/
theorem throughout_reconcileNode (node : InstanceNode) {counterpart : Option SchemaNode}
    (distinct : ∀ schema ∈ counterpart, schema.KeysDistinct) :
    Throughout property wildcard counterpart (reconcileNode wildcard counterpart node) := by
  induction node using InstanceNode.induction generalizing counterpart with
  | inside node inductionHypothesis =>
      rcases agrees_or_stale counterpart node with agrees | ⟨schema, rfl, stale⟩
      · rw [throughout_iff]
        refine ⟨ofStep counterpart node, ?_⟩
        rw [reconcileNode_of_agrees wildcard agrees, shape_kept, children_kept, keptInside]
        intro isObject
        rw [isObject]
        exact allThroughout_reconcileFields_of ofStep
          (SchemaNode.allKeysDistinct_counterpartChildren distinct)
          fun child member _ => inductionHypothesis child member
      · rw [reconcileNode_of_stale wildcard stale]
        exact throughout_rebuilt ofStep (distinct schema rfl) node.key

theorem allThroughout_reconcileFields {schema : List SchemaNode}
    (distinct : SchemaNode.AllKeysDistinct schema) (nodes : List InstanceNode) :
    AllThroughout property wildcard schema (reconcileFields wildcard schema nodes) :=
  allThroughout_reconcileFields_of ofStep distinct
    fun node _ _ => throughout_reconcileNode ofStep node

end

end InstanceNode

end Formwork
