/-
This file takes from fields what the schema says about them, as saving does.
-/

import Formwork.Proofs.Instance.Levels

namespace Formwork

namespace InstanceNode

mutual

/-- The field without what the schema says about it, at every depth. -/
def detached : InstanceNode → InstanceNode
  | ⟨key, type, value, enabled, children, childDef, _⟩ =>
      ⟨key, type, value, enabled, detachedAll children, childDef, none⟩

def detachedAll : List InstanceNode → List InstanceNode
  | [] => []
  | node :: rest => detached node :: detachedAll rest

end

theorem detachedAll_eq_map (nodes : List InstanceNode) : detachedAll nodes = nodes.map detached := by
  induction nodes with
  | nil => rfl
  | cons node rest inductionHypothesis => rw [detachedAll, inductionHypothesis, List.map_cons]

theorem detached_eq (node : InstanceNode) :
    detached node = { node with children := node.children.map detached, info := none } := by
  cases node
  rw [detached, detachedAll_eq_map]

@[simp]
theorem key_detached (node : InstanceNode) : (detached node).key = node.key := by
  rw [detached_eq]

@[simp]
theorem shape_detached (node : InstanceNode) : (detached node).shape = node.shape := by
  rw [detached_eq]
  rfl

@[simp]
theorem detached_detached (node : InstanceNode) : detached (detached node) = detached node := by
  induction node using InstanceNode.induction with
  | inside node inductionHypothesis =>
      rw [detached_eq node, detached_eq]
      simpa using inductionHypothesis

/-- What the schema says about a field is not written. -/
theorem toJson_detached (node : InstanceNode) : toJson (detached node) = toJson node := by
  induction node using InstanceNode.induction with
  | inside node inductionHypothesis =>
      have sameInside : nodesToJson (node.children.map detached) = nodesToJson node.children := by
        rw [nodesToJson_eq_map, nodesToJson_eq_map, List.map_map]
        exact List.map_congr_left inductionHypothesis
      cases node
      rw [detached_eq, toJson, toJson, sameInside]

theorem nodesToJson_detachedAll (nodes : List InstanceNode) :
    nodesToJson (detachedAll nodes) = nodesToJson nodes := by
  rw [nodesToJson_eq_map, nodesToJson_eq_map, detachedAll_eq_map, List.map_map]
  exact List.map_congr_left fun node _ => toJson_detached node

end InstanceNode

end Formwork
