/-
This file shows when reconciling keeps what stored fields hold: exactly if they fit the schema.
-/

import Formwork.Proofs.Instance.Content
import Formwork.Proofs.Reconcile.Kept
import Formwork.Proofs.Reconcile.Throughout
import Formwork.SizedEngine

namespace Formwork

namespace InstanceNode

/-- A field has the shape of its counterpart, and an object without fields has none in its
counterpart. -/
def Fits (counterpart : Option SchemaNode) (node : InstanceNode) : Prop :=
  Agrees counterpart node ∧
    (node.shape = .object → node.children = [] → counterpartChildren counterpart = [])

instance (counterpart : Option SchemaNode) (node : InstanceNode) :
    Decidable (Fits counterpart node) :=
  inferInstanceAs (Decidable (_ ∧ _))

variable (wildcard : String)

theorem contents_defaults_eq_nil_iff (schema : List SchemaNode) :
    contents (defaults schema) = [] ↔ schema = [] := by
  simp [contents_eq_map, defaults_eq_map]

variable [PatternEngine]

/-- The contents of one level stay exactly if each of them does, unless the level is empty. -/
theorem contents_reconcileFields_eq_iff_of (schema : List SchemaNode) (nodes : List InstanceNode) :
    contents (reconcileFields wildcard schema nodes) = contents nodes ↔
      (nodes = [] → schema = []) ∧
        ∀ node ∈ nodes, content (reconcileIn wildcard schema node) = content node := by
  by_cases empty : nodes = []
  · rw [empty, reconcileFields_nil, contents, contents_defaults_eq_nil_iff]
    simp
  · rw [reconcileFields_eq_map wildcard schema empty, contents_eq_map, contents_eq_map,
      List.map_map, List.map_inj_left]
    simp [empty]

theorem keptInside_eq_iff (counterpart : Option SchemaNode) (node : InstanceNode) :
    content (kept wildcard counterpart node) = content node ↔
      (node.shape = .object →
        contents (reconcileFields wildcard (counterpartChildren counterpart) node.children) =
          contents node.children) := by
  rw [content_eq, content_eq node, shape_kept, children_kept, keptInside]
  cases shape : node.shape <;> simp [kept]

/-- Reconciling keeps what a field holds exactly if the field and all that objects inside it open
fit their counterparts. -/
theorem content_reconcileNode_eq_iff (node : InstanceNode) (counterpart : Option SchemaNode) :
    content (reconcileNode wildcard counterpart node) = content node ↔
      Throughout Fits wildcard counterpart node := by
  induction node using InstanceNode.induction generalizing counterpart with
  | inside node inductionHypothesis =>
      rw [throughout_iff, Fits]
      rcases agrees_or_stale counterpart node with agrees | ⟨schema, rfl, stale⟩
      · have sameInside :
            (∀ child ∈ node.children,
              content (reconcileIn wildcard (counterpartChildren counterpart) child) =
                content child) ↔
              AllThroughout Fits wildcard (counterpartChildren counterpart) node.children := by
          rw [allThroughout_iff]
          exact forall₂_congr fun child member => inductionHypothesis child member _
        rw [reconcileNode_of_agrees wildcard agrees, keptInside_eq_iff,
          contents_reconcileFields_eq_iff_of, sameInside]
        simp only [agrees, true_and]
        exact ⟨fun both => ⟨fun isObject => (both isObject).1, fun isObject => (both isObject).2⟩,
          fun both isObject => ⟨both.1 isObject, both.2 isObject⟩⟩
      · rw [reconcileNode_of_stale wildcard stale]
        constructor
        · intro same
          have sameShape := congrArg shape same
          rw [shape_content, shape_content, shape_rebuilt] at sameShape
          exact absurd sameShape.symm stale
        · intro fits
          exact absurd (fits.1.1 schema rfl) stale

theorem contents_reconcileFields_eq_iff (schema : List SchemaNode) (nodes : List InstanceNode) :
    contents (reconcileFields wildcard schema nodes) = contents nodes ↔
      (nodes = [] → schema = []) ∧ AllThroughout Fits wildcard schema nodes := by
  rw [contents_reconcileFields_eq_iff_of, allThroughout_iff]
  exact and_congr_right fun _ =>
    forall₂_congr fun node _ => content_reconcileNode_eq_iff wildcard node _

end InstanceNode

/-- Stored fields that fit a schema keep their payload, whatever else the schema says about them. -/
theorem payload_reconcile [PatternEngine] (options : CompileOptions) (schema : List SchemaNode)
    {stored : List InstanceNode} (nonempty : stored ≠ [])
    (fits : InstanceNode.AllThroughout InstanceNode.Fits options.wildcard schema stored) :
    payload (reconcile options schema stored) = payload stored := by
  apply InstanceNode.payload_eq_of_contents_eq
  rw [reconcile, InstanceNode.contents_reconcileFields_eq_iff]
  exact ⟨fun empty => absurd empty nonempty, fits⟩

/-- A text that has become a number, a hidden text of a template, a field without a counterpart and
an object keep their payload. -/
theorem payload_reconcile_retyped :
    InstanceNode.AllThroughout InstanceNode.Fits "*"
        [.leaf { key := "age", type := .number },
          .leaf { key := "lang_*", type := .email, isPattern := true },
          ⟨{ key := "address", type := .object }, some [.leaf { key := "zip", type := .number }]⟩]
        [{ InstanceNode.fresh "age" .text with value := .str "42" },
          { InstanceNode.fresh "lang_en" .text with enabled := false },
          .fresh "nickname" .text,
          { InstanceNode.fresh "address" .object with children := [.fresh "zip" .text] }] ∧
      payload (reconcile {}
          [.leaf { key := "age", type := .number },
            .leaf { key := "lang_*", type := .email, isPattern := true },
            ⟨{ key := "address", type := .object }, some [.leaf { key := "zip", type := .number }]⟩]
          [{ InstanceNode.fresh "age" .text with value := .str "42" },
            { InstanceNode.fresh "lang_en" .text with enabled := false },
            .fresh "nickname" .text,
            { InstanceNode.fresh "address" .object with children := [.fresh "zip" .text] }]) =
        .obj [("age", .str "42"), ("nickname", .str ""), ("address", .obj [("zip", .str "")])] :=
  ⟨by decide, (payload_reconcile {} _ (by decide) (by decide)).trans (by decide)⟩

end Formwork
