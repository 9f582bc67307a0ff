/-
This file shows schema nodes by induction on what is inside them, and the recursions on one level of
nodes as maps.
-/

import Formwork.Codec.Schema

namespace Formwork

namespace SchemaNode

/-- What holds of a node if it holds of all nodes inside it holds of every node. -/
@[elab_as_elim]
theorem induction {motive : SchemaNode → Prop}
    (inside : ∀ node : SchemaNode, (∀ child ∈ node.children, motive child) → motive node) :
    ∀ node, motive node
  | ⟨info, none⟩ => inside ⟨info, none⟩ (by simp [children])
  | ⟨info, some nodes⟩ =>
      inside ⟨info, some nodes⟩ fun child member => by
        have smaller : sizeOf child < sizeOf nodes := List.sizeOf_lt_of_mem member
        have deeper : sizeOf nodes < sizeOf (⟨info, some nodes⟩ : SchemaNode) := by
          simp only [mk.sizeOf_spec, Option.some.sizeOf_spec]
          omega
        exact induction inside child
termination_by node => sizeOf node
decreasing_by exact Nat.lt_trans smaller deeper

mutual

/-- The node and all nodes inside it have the property. -/
def Everywhere (property : SchemaNode → Prop) : SchemaNode → Prop
  | ⟨info, none⟩ => property ⟨info, none⟩
  | ⟨info, some nodes⟩ => property ⟨info, some nodes⟩ ∧ AllEverywhere property nodes

def AllEverywhere (property : SchemaNode → Prop) : List SchemaNode → Prop
  | [] => True
  | node :: rest => Everywhere property node ∧ AllEverywhere property rest

end

theorem allEverywhere_iff {property : SchemaNode → Prop} (nodes : List SchemaNode) :
    AllEverywhere property nodes ↔ ∀ node ∈ nodes, Everywhere property node := by
  induction nodes with
  | nil => simp [AllEverywhere]
  | cons node rest inductionHypothesis =>
      rw [AllEverywhere, inductionHypothesis, List.forall_mem_cons]

theorem everywhere_iff {property : SchemaNode → Prop} (node : SchemaNode) :
    Everywhere property node ↔
      property node ∧ ∀ child ∈ node.children, Everywhere property child := by
  obtain ⟨info, _ | nodes⟩ := node
  · simp [Everywhere, children]
  · rw [Everywhere, allEverywhere_iff]
    rfl

mutual

def decidableEverywhere {property : SchemaNode → Prop} [DecidablePred property] :
    (node : SchemaNode) → Decidable (Everywhere property node)
  | ⟨info, none⟩ => inferInstanceAs (Decidable (property ⟨info, none⟩))
  | ⟨info, some nodes⟩ =>
      have : Decidable (AllEverywhere property nodes) := decidableAllEverywhere nodes
      inferInstanceAs (Decidable (property ⟨info, some nodes⟩ ∧ AllEverywhere property nodes))

def decidableAllEverywhere {property : SchemaNode → Prop} [DecidablePred property] :
    (nodes : List SchemaNode) → Decidable (AllEverywhere property nodes)
  | [] => .isTrue trivial
  | node :: rest =>
      have : Decidable (Everywhere property node) := decidableEverywhere node
      have : Decidable (AllEverywhere property rest) := decidableAllEverywhere rest
      inferInstanceAs (Decidable (Everywhere property node ∧ AllEverywhere property rest))

end

instance {property : SchemaNode → Prop} [DecidablePred property] :
    DecidablePred (Everywhere property) :=
  decidableEverywhere

theorem nodesToJson_eq_map (nodes : List SchemaNode) : nodesToJson nodes = nodes.map toJson := by
  induction nodes with
  | nil => rfl
  | cons node rest inductionHypothesis => rw [nodesToJson, inductionHypothesis, List.map_cons]

end SchemaNode

end Formwork
