/-
This file gives positions to fields, and shows what stands where after the field at one position is
replaced.
-/

import Formwork.Instance.Node

namespace Formwork

namespace InstanceNode

/-- The level of fields at a position, which counts the field to go into at every level above. -/
def levelAt? : List Nat → List InstanceNode → Option (List InstanceNode)
  | [], nodes => some nodes
  | index :: rest, nodes => nodes[index]?.bind fun node => levelAt? rest node.children

/-- A field alone, without the fields inside it. -/
def alone (node : InstanceNode) : InstanceNode :=
  { node with children := [] }

/-- The fields with another one in the place of the one that an index counts in a level. -/
def replaceAt (new : InstanceNode) (index : Nat) : List Nat → List InstanceNode → List InstanceNode
  | [], nodes => nodes.set index new
  | outer :: rest, nodes =>
      nodes.modify outer fun node => { node with children := replaceAt new index rest node.children }

/-- The field `new` has taken the place of `node`, and no other field has changed: what is inside
`new` is its own, and all fields outside it are what they were, but for what is inside them. -/
def Replaced (node new : InstanceNode) (before after : List InstanceNode) : Prop :=
  ∃ level index fields, levelAt? level before = some fields ∧ fields[index]? = some node ∧
    levelAt? level after = some (fields.set index new) ∧
    ∀ other, other ≠ level → ¬level ++ [index] <+: other →
      (levelAt? other after).map (·.map alone) = (levelAt? other before).map (·.map alone)

variable {new : InstanceNode} {index : Nat}

/-- Every level above a position has the field to go into replaced by one with other fields inside. -/
theorem replaceAt_cons {nodes : List InstanceNode} (outer : Fin nodes.length) (level : List Nat) :
    replaceAt new index (outer :: level) nodes =
      nodes.set outer
        { nodes.get outer with
          children := replaceAt new index level (nodes.get outer).children } := by
  rw [replaceAt, List.modify_eq_set, List.getElem?_eq_getElem outer.isLt]
  rfl

/-- The new field stands in its level where the old one stood. -/
theorem levelAt?_replaceAt (level : List Nat) (nodes : List InstanceNode) :
    levelAt? level (replaceAt new index level nodes) =
      (levelAt? level nodes).map (·.set index new) := by
  induction level generalizing nodes with
  | nil => rfl
  | cons outer level inductionHypothesis =>
      rw [levelAt?, levelAt?, replaceAt, List.getElem?_modify_eq, Option.map_eq_map, Option.bind_map,
        Option.map_bind]
      exact Option.bind_congr fun node _ => inductionHypothesis node.children

/-- A change inside one field leaves the fields of its level alone as they are. -/
theorem map_alone_modify_children (change : List InstanceNode → List InstanceNode) (outer : Nat)
    (nodes : List InstanceNode) :
    (nodes.modify outer fun node => { node with children := change node.children }).map alone =
      nodes.map alone := by
  apply List.ext_getElem?
  intro place
  rw [List.getElem?_map, List.getElem?_map, List.getElem?_modify, Option.map_eq_map, Option.map_map]
  apply Option.map_congr
  intro node _
  by_cases here : outer = place <;> simp [here, alone]

/-- All fields at other levels stay as they are, but for what is inside them. -/
theorem levelAt?_replaceAt_elsewhere {level other : List Nat} {nodes : List InstanceNode}
    (differ : other ≠ level) (outside : ¬level ++ [index] <+: other) :
    (levelAt? other (replaceAt new index level nodes)).map (·.map alone) =
      (levelAt? other nodes).map (·.map alone) := by
  induction level generalizing other nodes with
  | nil =>
      obtain _ | ⟨first, rest⟩ := other
      · exact absurd rfl differ
      · have elsewhere : index ≠ first := by
          rintro rfl
          exact outside (List.cons_prefix_cons.mpr ⟨rfl, List.nil_prefix⟩)
        rw [levelAt?, levelAt?, replaceAt, List.getElem?_set_ne elsewhere]
  | cons outer level inductionHypothesis =>
      rw [replaceAt]
      obtain _ | ⟨first, rest⟩ := other
      · exact congrArg some (map_alone_modify_children (replaceAt new index level) outer nodes)
      · rw [levelAt?, levelAt?]
        by_cases same : outer = first
        · subst same
          have differInside : rest ≠ level := fun equal => differ (by rw [equal])
          have outsideInside : ¬level ++ [index] <+: rest := fun begins =>
            outside (List.cons_prefix_cons.mpr ⟨rfl, begins⟩)
          rw [List.getElem?_modify_eq, Option.map_eq_map, Option.bind_map, Option.map_bind,
            Option.map_bind]
          exact Option.bind_congr fun node _ => inductionHypothesis differInside outsideInside
        · rw [List.getElem?_modify_ne _ _ same]

theorem replaced_replaceAt {level : List Nat} {node : InstanceNode}
    {nodes fields : List InstanceNode} (stands : levelAt? level nodes = some fields)
    (isNode : fields[index]? = some node) :
    Replaced node new nodes (replaceAt new index level nodes) :=
  ⟨level, index, fields, stands, isNode, by rw [levelAt?_replaceAt, stands, Option.map_some],
    fun _ => levelAt?_replaceAt_elsewhere⟩

end InstanceNode

end Formwork
