/-
This file shows what reconciling takes from stored fields, and what it takes from the schema.
-/

import Formwork.Proofs.Reconcile.Throughout
import Formwork.SizedEngine
import Mathlib.Data.List.Forall2

namespace Formwork

namespace ChildDef

theorem isSome_ofNode? {schema : SchemaNode} (isList : schema.shape = .list) :
    (ofNode? schema).isSome := by
  rw [ofNode?, if_pos isList]
  rfl

end ChildDef

section

variable [PatternEngine]

namespace InstanceNode

/-- A field has the shape of its counterpart, and items that are defined if that is a list. -/
def Conforms (counterpart : Option SchemaNode) (node : InstanceNode) : Prop :=
  ∀ schema ∈ counterpart,
    node.shape = schema.shape ∧ (schema.shape = .list → node.childDef.isSome)

/-- Reconciling makes every field conform to its counterpart. -/
theorem conforms_reconcileNode (wildcard : String) (counterpart : Option SchemaNode)
    (node : InstanceNode) : Conforms counterpart (reconcileNode wildcard counterpart node) := by
  intro schema found
  obtain rfl := Option.mem_def.mp found
  by_cases stale : node.shape ≠ schema.shape
  · rw [reconcileNode_of_stale wildcard stale, shape_rebuilt, childDef_rebuilt]
    exact ⟨rfl, ChildDef.isSome_ofNode?⟩
  · have agrees : Agrees (some schema) node := by
      intro other same
      rw [← Option.some.inj same]
      exact Decidable.not_not.mp stale
    rw [reconcileNode_of_agrees wildcard agrees]
    refine ⟨agrees schema rfl, fun isList => ?_⟩
    simp [kept, ChildDef.isSome_ofNode? isList]

/-- A field keeps what was stored for it, a list also its items. -/
def Keeps (stored node : InstanceNode) : Prop :=
  node.type = stored.type ∧ node.value = stored.value ∧ node.enabled = stored.enabled ∧
    (stored.shape = .list → node.children = stored.children)

theorem keeps_reconcileNode (wildcard : String) {counterpart : Option SchemaNode}
    {stored : InstanceNode} (agrees : Agrees counterpart stored) :
    Keeps stored (reconcileNode wildcard counterpart stored) := by
  rw [reconcileNode_of_agrees wildcard agrees]
  refine ⟨rfl, rfl, rfl, fun isList => ?_⟩
  rw [children_kept, keptInside, isList]

end InstanceNode

/-- Stored fields decide which fields there are and keep what they hold, unless they are stale.
Their shapes come from the schema, at every level that objects open. -/
theorem reconcile_presence (options : CompileOptions) {schema : List SchemaNode}
    (distinct : SchemaNode.AllKeysDistinct schema) {stored : List InstanceNode}
    (nonempty : stored ≠ []) :
    (reconcile options schema stored).map (·.key) = stored.map (·.key) ∧
      InstanceNode.AllThroughout InstanceNode.Conforms options.wildcard schema
        (reconcile options schema stored) ∧
      List.Forall₂
        (fun old new =>
          InstanceNode.Agrees (SchemaNode.counterpart? options.wildcard schema old.key) old →
            InstanceNode.Keeps old new)
        stored (reconcile options schema stored) := by
  refine ⟨?_, ?_, ?_⟩
  · exact InstanceNode.keys_reconcileFields options.wildcard schema nonempty
  · exact InstanceNode.allThroughout_reconcileFields
      (InstanceNode.conforms_reconcileNode options.wildcard) distinct stored
  · rw [reconcile, InstanceNode.reconcileFields_eq_map _ schema nonempty, List.forall₂_map_right_iff,
      List.forall₂_same]
    exact fun node _ => InstanceNode.keeps_reconcileNode options.wildcard

end

/-- An object that has become a list of objects is rebuilt as one, next to a text that the schema
does not know. -/
theorem reconcile_presence_stale :
    SchemaNode.AllKeysDistinct [⟨{ key := "users", type := .object, isList := true }, some []⟩] ∧
      [InstanceNode.fresh "users" .object, .fresh "nickname" .text] ≠ [] ∧
      (reconcile {} [⟨{ key := "users", type := .object, isList := true }, some []⟩]
          [.fresh "users" .object, .fresh "nickname" .text]).map (·.key) =
        ["users", "nickname"] ∧
      InstanceNode.AllThroughout InstanceNode.Conforms "*"
        [⟨{ key := "users", type := .object, isList := true }, some []⟩]
        (reconcile {} [⟨{ key := "users", type := .object, isList := true }, some []⟩]
          [.fresh "users" .object, .fresh "nickname" .text]) ∧
      List.Forall₂
        (fun old new =>
          InstanceNode.Agrees
              (SchemaNode.counterpart? "*"
                [⟨{ key := "users", type := .object, isList := true }, some []⟩] old.key) old →
            InstanceNode.Keeps old new)
        [.fresh "users" .object, .fresh "nickname" .text]
        (reconcile {} [⟨{ key := "users", type := .object, isList := true }, some []⟩]
          [.fresh "users" .object, .fresh "nickname" .text]) :=
  ⟨by decide, by decide, reconcile_presence {} (by decide) (by decide)⟩

end Formwork
