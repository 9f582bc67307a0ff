/-
This file shows that reconciling looks at fields only through views that keep their keys, their
shapes and the fields inside them.
-/

import Formwork.Proofs.Instance.Content
import Formwork.Proofs.Instance.Detached
import Formwork.Proofs.Reconcile.Kept

namespace Formwork

namespace InstanceNode

variable [PatternEngine]

/-- A view of fields leaves what reconciling looks at. A kept field is viewed as its own view is, if
the fields inside are. -/
structure IsView (view : InstanceNode → InstanceNode) : Prop where
  key_view : ∀ node, (view node).key = node.key
  shape_view : ∀ node, (view node).shape = node.shape
  children_view : ∀ node, node.shape ≠ .scalar → (view node).children = node.children.map view
  view_view : ∀ node, view (view node) = view node
  view_kept : ∀ wildcard counterpart node,
    (keptInside wildcard counterpart (view node)).map view =
        (keptInside wildcard counterpart node).map view →
      view (kept wildcard counterpart (view node)) = view (kept wildcard counterpart node)

namespace IsView

variable {view : InstanceNode → InstanceNode} (isView : IsView view) (wildcard : String)
include isView

theorem reconcileFields_map_of {schema : List SchemaNode} {nodes : List InstanceNode}
    (each : ∀ node ∈ nodes, ∀ counterpart,
      view (reconcileNode wildcard counterpart (view node)) =
        view (reconcileNode wildcard counterpart node)) :
    (reconcileFields wildcard schema (nodes.map view)).map view =
      (reconcileFields wildcard schema nodes).map view := by
  by_cases empty : nodes = []
  · rw [empty, List.map_nil]
  · rw [reconcileFields_eq_map wildcard schema empty,
      reconcileFields_eq_map wildcard schema (by simpa using empty), List.map_map, List.map_map,
      List.map_map]
    apply List.map_congr_left
    intro node member
    simp only [Function.comp_apply, reconcileIn, isView.key_view]
    exact each node member _

/-- Reconciling the view of a field and reconciling the field give the same view. -/
theorem reconcileNode_view (node : InstanceNode) (counterpart : Option SchemaNode) :
    view (reconcileNode wildcard counterpart (view node)) =
      view (reconcileNode wildcard counterpart node) := by
  induction node using InstanceNode.induction generalizing counterpart with
  | inside node inductionHypothesis =>
      rcases agrees_or_stale counterpart node with agrees | ⟨schema, rfl, stale⟩
      · have viewAgrees : Agrees counterpart (view node) := by
          rwa [Agrees, isView.shape_view]
        rw [reconcileNode_of_agrees wildcard agrees, reconcileNode_of_agrees wildcard viewAgrees]
        apply isView.view_kept
        rw [keptInside, keptInside, isView.shape_view]
        cases shape : node.shape with
        | object =>
            rw [isView.children_view node (by simp [shape])]
            exact isView.reconcileFields_map_of wildcard inductionHypothesis
        | list =>
            rw [isView.children_view node (by simp [shape]), List.map_map]
            exact List.map_congr_left fun child _ => isView.view_view child
        | scalar => rfl
      · rw [reconcileNode_of_stale wildcard stale,
          reconcileNode_of_stale wildcard (by rwa [isView.shape_view]), isView.key_view]

theorem reconcileFields_map (schema : List SchemaNode) (nodes : List InstanceNode) :
    (reconcileFields wildcard schema (nodes.map view)).map view =
      (reconcileFields wildcard schema nodes).map view :=
  isView.reconcileFields_map_of wildcard fun node _ => isView.reconcileNode_view wildcard node

/-- Fields with the same views are reconciled to fields with the same views. -/
theorem reconcileFields_congr (schema : List SchemaNode) {first second : List InstanceNode}
    (same : first.map view = second.map view) :
    (reconcileFields wildcard schema first).map view =
      (reconcileFields wildcard schema second).map view := by
  rw [← isView.reconcileFields_map wildcard schema first, same,
    isView.reconcileFields_map wildcard schema second]

end IsView

/-- What the schema says about fields plays no part in reconciling them. -/
theorem isView_detached : IsView detached where
  key_view := key_detached
  shape_view := shape_detached
  children_view node _ := by rw [detached_eq]
  view_view := detached_detached
  view_kept wildcard counterpart node sameInside := by
    rw [detached_eq, detached_eq (kept _ _ node), children_kept, children_kept, sameInside, kept,
      detached_eq node]
    rfl

/-- What fields hold decides what the fields hold that they are reconciled to. -/
theorem isView_content : IsView content where
  key_view := key_content
  shape_view := shape_content
  children_view node notScalar := by rw [content_eq, if_neg notScalar, contents_eq_map]
  view_view := content_content
  view_kept wildcard counterpart node sameInside := by
    rw [content_eq, content_eq (kept _ _ node), children_kept, children_kept, shape_kept, shape_kept,
      shape_content, contents_eq_map, contents_eq_map, sameInside, kept, content_eq node]
    rfl

end InstanceNode

end Formwork
