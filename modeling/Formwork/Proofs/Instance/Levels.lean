/-
This file shows fields by induction on what is inside them, and the recursions on one level of
fields as maps.
-/

import Formwork.Codec.Instance

namespace Formwork

namespace InstanceNode

/-- What holds of a field if it holds of all fields inside it holds of every field. -/
@[elab_as_elim]
theorem induction {motive : InstanceNode → Prop}
    (inside : ∀ node : InstanceNode, (∀ child ∈ node.children, motive child) → motive node) :
    ∀ node, motive node
  | ⟨key, type, value, enabled, children, childDef, info⟩ =>
      inside ⟨key, type, value, enabled, children, childDef, info⟩ fun child member => by
        have smaller : sizeOf child < sizeOf children := List.sizeOf_lt_of_mem member
        have deeper : sizeOf children <
            sizeOf (⟨key, type, value, enabled, children, childDef, info⟩ : InstanceNode) := by
          simp only [mk.sizeOf_spec]
          omega
        exact induction inside child
termination_by node => sizeOf node
decreasing_by exact Nat.lt_trans smaller deeper

mutual

/-- The field and all fields inside it have the property. -/
def Everywhere (property : InstanceNode → Prop) : InstanceNode → Prop
  | ⟨key, type, value, enabled, children, childDef, info⟩ =>
      property ⟨key, type, value, enabled, children, childDef, info⟩ ∧
        AllEverywhere property children

def AllEverywhere (property : InstanceNode → Prop) : List InstanceNode → Prop
  | [] => True
  | node :: rest => Everywhere property node ∧ AllEverywhere property rest

end

theorem allEverywhere_iff {property : InstanceNode → Prop} (nodes : List InstanceNode) :
    AllEverywhere property nodes ↔ ∀ node ∈ nodes, Everywhere property node := by
  induction nodes with
  | nil => simp [AllEverywhere]
  | cons node rest inductionHypothesis =>
      rw [AllEverywhere, inductionHypothesis, List.forall_mem_cons]

theorem everywhere_iff {property : InstanceNode → Prop} (node : InstanceNode) :
    Everywhere property node ↔
      property node ∧ ∀ child ∈ node.children, Everywhere property child := by
  cases node
  rw [Everywhere, allEverywhere_iff]

mutual

def decidableEverywhere {property : InstanceNode → Prop} [DecidablePred property] :
    (node : InstanceNode) → Decidable (Everywhere property node)
  | ⟨key, type, value, enabled, children, childDef, info⟩ =>
      have : Decidable (AllEverywhere property children) := decidableAllEverywhere children
      inferInstanceAs (Decidable
        (property ⟨key, type, value, enabled, children, childDef, info⟩ ∧
          AllEverywhere property children))

def decidableAllEverywhere {property : InstanceNode → Prop} [DecidablePred property] :
    (nodes : List InstanceNode) → Decidable (AllEverywhere property nodes)
  | [] => .isTrue trivial
  | node :: rest =>
      have : Decidable (Everywhere property node) := decidableEverywhere node
      have : Decidable (AllEverywhere property rest) := decidableAllEverywhere rest
      inferInstanceAs (Decidable (Everywhere property node ∧ AllEverywhere property rest))

end

instance {property : InstanceNode → Prop} [DecidablePred property] :
    DecidablePred (Everywhere property) :=
  decidableEverywhere

theorem defaults_eq_map (nodes : List SchemaNode) : defaults nodes = nodes.map ofSchema := by
  induction nodes with
  | nil => rfl
  | cons node rest inductionHypothesis => rw [defaults, inductionHypothesis, List.map_cons]

theorem sanitizedAll_eq_map (nodes : List InstanceNode) :
    sanitizedAll nodes = nodes.map sanitized := by
  induction nodes with
  | nil => rfl
  | cons node rest inductionHypothesis => rw [sanitizedAll, inductionHypothesis, List.map_cons]

theorem nodesToJson_eq_map (nodes : List InstanceNode) : nodesToJson nodes = nodes.map toJson := by
  induction nodes with
  | nil => rfl
  | cons node rest inductionHypothesis => rw [nodesToJson, inductionHypothesis, List.map_cons]

theorem anyHasFiles_eq_any (nodes : List InstanceNode) : anyHasFiles nodes = nodes.any hasFiles := by
  induction nodes with
  | nil => rfl
  | cons node rest inductionHypothesis => rw [anyHasFiles, inductionHypothesis, List.any_cons]

end InstanceNode

end Formwork
