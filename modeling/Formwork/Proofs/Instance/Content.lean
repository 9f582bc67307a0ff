/-
This file defines what fields hold, which alone decides the payload.
-/

import Formwork.Instance.Payload
import Formwork.Proofs.Instance.Levels

namespace Formwork

namespace InstanceNode

mutual

/-- What a field holds, without the definition of its items and what the schema says. Only lists and
objects hold other fields. -/
def content : InstanceNode → InstanceNode
  | ⟨key, type, value, enabled, children, _, _⟩ =>
      ⟨key, type, value, enabled, if type.shape = .scalar then [] else contents children, none, none⟩

def contents : List InstanceNode → List InstanceNode
  | [] => []
  | node :: rest => content node :: contents rest

end

theorem contents_eq_map (nodes : List InstanceNode) : contents nodes = nodes.map content := by
  induction nodes with
  | nil => rfl
  | cons node rest inductionHypothesis => rw [contents, inductionHypothesis, List.map_cons]

theorem content_eq (node : InstanceNode) :
    content node =
      { node with
        children := if node.shape = .scalar then [] else contents node.children
        childDef := none
        info := none } := by
  cases node
  rw [content]
  rfl

@[simp]
theorem key_content (node : InstanceNode) : (content node).key = node.key := by
  rw [content_eq]

@[simp]
theorem type_content (node : InstanceNode) : (content node).type = node.type := by
  rw [content_eq]

@[simp]
theorem enabled_content (node : InstanceNode) : (content node).enabled = node.enabled := by
  rw [content_eq]

@[simp]
theorem shape_content (node : InstanceNode) : (content node).shape = node.shape := by
  rw [shape, type_content, shape]

@[simp]
theorem content_content (node : InstanceNode) : content (content node) = content node := by
  induction node using InstanceNode.induction with
  | inside node inductionHypothesis =>
      rw [content_eq (content node), shape_content, content_eq node]
      by_cases isScalar : node.shape = .scalar
      · simp [isScalar]
      · simpa [isScalar, contents_eq_map] using inductionHypothesis

theorem keys_contents (nodes : List InstanceNode) :
    (contents nodes).map (·.key) = nodes.map (·.key) := by
  rw [contents_eq_map, List.map_map]
  exact List.map_congr_left fun node _ => key_content node

theorem payloadMembers_contents_of {nodes : List InstanceNode}
    (each : ∀ node ∈ nodes, payloadValue (content node) = payloadValue node) :
    payloadMembers (contents nodes) = payloadMembers nodes := by
  induction nodes with
  | nil => rfl
  | cons node rest inductionHypothesis =>
      rw [List.forall_mem_cons] at each
      rw [contents, payloadMembers, payloadMembers, inductionHypothesis each.2, each.1,
        enabled_content, key_content]

theorem payloadItems_contents_of {nodes : List InstanceNode}
    (each : ∀ node ∈ nodes, payloadValue (content node) = payloadValue node) :
    payloadItems (contents nodes) = payloadItems nodes := by
  induction nodes with
  | nil => rfl
  | cons node rest inductionHypothesis =>
      rw [List.forall_mem_cons] at each
      rw [contents, payloadItems, payloadItems, inductionHypothesis each.2, each.1, enabled_content]

/-- A field contributes what its content does. -/
theorem payloadValue_content (node : InstanceNode) :
    payloadValue (content node) = payloadValue node := by
  induction node using InstanceNode.induction with
  | inside node inductionHypothesis =>
      obtain ⟨key, type, value, enabled, children, childDef, info⟩ := node
      have members := payloadMembers_contents_of inductionHypothesis
      have items := payloadItems_contents_of inductionHypothesis
      rw [content]
      cases type <;> simp_all [payloadValue, FieldType.shape]

theorem payload_contents (nodes : List InstanceNode) : payload (contents nodes) = payload nodes := by
  rw [payload, payload, payloadMembers_contents_of fun node _ => payloadValue_content node]

/-- Fields of the same contents have the same payload. -/
theorem payload_eq_of_contents_eq {first second : List InstanceNode}
    (same : contents first = contents second) : payload first = payload second := by
  rw [← payload_contents first, same, payload_contents]

end InstanceNode

end Formwork
