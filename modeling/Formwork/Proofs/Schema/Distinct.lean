/-
This file defines schemas whose sibling keys are distinct at every level, in which a key finds its
own node.
-/

import Formwork.Instance.Reconcile
import Formwork.Proofs.Schema.Levels

namespace Formwork

/-- A value is found by its name if no other value has the name. -/
theorem find?_name_of_mem {Value : Type} {name : Value → String} {values : List Value}
    {value : Value} (distinct : (values.map name).Nodup) (member : value ∈ values) :
    values.find? (name · == name value) = some value := by
  induction values with
  | nil => cases member
  | cons first rest inductionHypothesis =>
      rw [List.map_cons, List.nodup_cons] at distinct
      rcases List.mem_cons.mp member with isFirst | later
      · simp [isFirst]
      · have differ : name first ≠ name value :=
          fun equal => distinct.1 (List.mem_map.mpr ⟨value, later, equal.symm⟩)
        rw [List.find?_cons_of_neg (by simpa using differ)]
        exact inductionHypothesis distinct.2 later

namespace SchemaNode

/-- Siblings have distinct keys. -/
def SiblingsDistinct (nodes : List SchemaNode) : Prop :=
  (nodes.map (·.key)).Nodup

instance (nodes : List SchemaNode) : Decidable (SiblingsDistinct nodes) :=
  inferInstanceAs (Decidable (nodes.map (·.key)).Nodup)

/-- Siblings have distinct keys at every level inside a node. -/
def KeysDistinct : SchemaNode → Prop :=
  Everywhere fun node => SiblingsDistinct node.children

/-- Siblings have distinct keys at this level and at every level inside it. -/
def AllKeysDistinct (nodes : List SchemaNode) : Prop :=
  SiblingsDistinct nodes ∧ ∀ node ∈ nodes, KeysDistinct node

instance : DecidablePred KeysDistinct :=
  inferInstanceAs (DecidablePred (Everywhere _))

instance (nodes : List SchemaNode) : Decidable (AllKeysDistinct nodes) :=
  inferInstanceAs (Decidable (_ ∧ _))

theorem keysDistinct_iff (node : SchemaNode) : KeysDistinct node ↔ AllKeysDistinct node.children :=
  everywhere_iff node

theorem keysDistinct_of_mem {nodes : List SchemaNode} {node : SchemaNode}
    (distinct : AllKeysDistinct nodes) (member : node ∈ nodes) : KeysDistinct node :=
  distinct.2 node member

theorem find?_key_of_mem {nodes : List SchemaNode} {node : SchemaNode}
    (distinct : SiblingsDistinct nodes) (member : node ∈ nodes) :
    nodes.find? (·.key == node.key) = some node :=
  find?_name_of_mem distinct member

variable [PatternEngine]

/-- The key of a node finds the node itself. -/
theorem counterpart?_key_of_mem (wildcard : String) {schema : List SchemaNode} {node : SchemaNode}
    (distinct : AllKeysDistinct schema) (member : node ∈ schema) :
    counterpart? wildcard schema node.key = some node := by
  rw [counterpart?, find?_key_of_mem distinct.1 member]
  rfl

theorem mem_of_counterpart? {wildcard key : String} {schema : List SchemaNode} {node : SchemaNode}
    (found : counterpart? wildcard schema key = some node) : node ∈ schema := by
  rw [counterpart?, Option.orElse_eq_orElse, Option.orElse_eq_or, Option.or_eq_some_iff] at found
  rcases found with byKey | ⟨_, byTemplate⟩
  · exact List.mem_of_find?_eq_some byKey
  · exact List.mem_of_find?_eq_some byTemplate

/-- A counterpart in a schema of distinct keys has distinct keys inside it. -/
theorem keysDistinct_of_counterpart? {wildcard key : String} {schema : List SchemaNode}
    (distinct : AllKeysDistinct schema) :
    ∀ node ∈ counterpart? wildcard schema key, KeysDistinct node :=
  fun _ found => keysDistinct_of_mem distinct (mem_of_counterpart? found)

end SchemaNode

end Formwork
