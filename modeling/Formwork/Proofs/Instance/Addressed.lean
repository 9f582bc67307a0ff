/-
This file shows that a change at the end of a path replaces the one field that reading the path
finds, as long as the path does not start with a dot.
-/

import Formwork.Instance.Path
import Formwork.Proofs.Instance.Path
import Formwork.Proofs.Instance.Position

namespace Formwork

namespace Path

/-- The segments of a path, unless it starts with a dot, are those of its steps. -/
theorem segments_eq_map_steps {path : String} (unled : path.toList.head? ≠ some '.') :
    segments path = (steps path).map (·.segment.toList) := by
  have segmentsFrom (walked : List Char) (all : List (List Char)) :
      (stepsFrom walked all).map (·.segment.toList) = all := by
    induction all generalizing walked with
    | nil => rfl
    | cons segment rest inductionHypothesis =>
        rw [stepsFrom, List.map_cons, inductionHypothesis, String.toList_ofList]
  rw [steps]
  split
  · rename_i next rest led
    have whole := Text.intercalate_pieces '.' path.toList
    rw [← segments, led, List.intercalate_cons_cons] at whole
    exact absurd (congrArg List.head? whole).symm unled
  · exact (segmentsFrom [] _).symm

theorem locate_eq_ok_iff {inList : Bool} {nodes : List InstanceNode} {step : Step}
    {index : Fin nodes.length} :
    locate inList nodes step = .ok index ↔ position? inList nodes step.segment = some index := by
  rw [locate]
  split
  · rename_i found isFound
    rw [isFound, Except.ok.injEq, Option.some.injEq]
  · rename_i missing
    simp [missing]

/-- The field of a level that a segment names. -/
def named? (inList : Bool) (nodes : List InstanceNode) (segment : String) : Option InstanceNode :=
  (position? inList nodes segment).map nodes.get

theorem follow?_singleton (inList : Bool) (nodes : List InstanceNode) (segment : List Char) :
    follow? inList nodes [segment] = named? inList nodes (String.ofList segment) :=
  rfl

theorem follow?_cons (inList : Bool) (nodes : List InstanceNode) (segment : List Char)
    {rest : List (List Char)} (more : rest ≠ []) :
    follow? inList nodes (segment :: rest) =
      (named? inList nodes (String.ofList segment)).bind fun node =>
        follow? (node.type == .array) node.children rest := by
  cases rest with
  | nil => exact absurd rfl more
  | cons next rest =>
      rw [named?, Option.bind_map]
      rfl

variable {inList : Bool} {nodes : List InstanceNode} {segment : String}

theorem named?_eq {index : Fin nodes.length} (found : position? inList nodes segment = some index) :
    named? inList nodes segment = some (nodes.get index) := by
  rw [named?, found, Option.map_some]

/-- A segment counts the same place with another field there, if the key stays. -/
theorem position?_set {index : Fin nodes.length} (found : position? inList nodes segment = some index)
    {node : InstanceNode} (sameKey : node.key = (nodes.get index).key) :
    position? inList (nodes.set index node) segment = some (index.cast List.length_set.symm) := by
  rw [position?] at found ⊢
  split at found
  · rename_i isList
    obtain ⟨place, counted, located⟩ := Option.bind_eq_some_iff.mp found
    rw [if_pos isList, counted, Option.bind_some]
    split at located
    · rename_i inRange
      obtain rfl := Option.some.inj located
      rw [dif_pos (by rwa [List.length_set])]
      rfl
    · cases located
  · rename_i notList
    rw [List.findFinIdx?_eq_some_iff] at found
    rw [if_neg notList, List.findFinIdx?_eq_some_iff]
    refine ⟨?_, fun earlier before => ?_⟩
    · simpa [sameKey] using found.1
    · have differ : index.val ≠ earlier.val := Nat.ne_of_gt before
      simpa [List.getElem_set_ne differ] using found.2 (earlier.cast List.length_set) before

/-- A segment names the field that takes the place of the one that it named, if the key stays. -/
theorem named?_set {index : Fin nodes.length} (found : position? inList nodes segment = some index)
    {node : InstanceNode} (sameKey : node.key = (nodes.get index).key) :
    named? inList (nodes.set index node) segment = some node := by
  rw [named?_eq (position?_set found sameKey)]
  simp

theorem isList_eq (node : InstanceNode) : (node.type == .array) = (node.shape == .list) := by
  rw [InstanceNode.shape]
  cases node.type <;> rfl

/-- A change of the field that the last step finds replaces this field alone, and the segments of
the steps find the field before and after the change. -/
theorem replaced_of_changeField {change : InstanceNode → InstanceNode}
    (keepsKey : ∀ node, (change node).key = node.key) {steps : List Step} {last : Step}
    {inList : Bool} {nodes after : List InstanceNode} {answer : Unit}
    (changed : changeLevel (changeField (fun node => (.ok (), change node)) last) steps inList nodes =
      (.ok answer, after)) :
    ∃ level index fields node, InstanceNode.levelAt? level nodes = some fields ∧
      fields[index]? = some node ∧
      after = InstanceNode.replaceAt (change node) index level nodes ∧
      follow? inList nodes ((steps ++ [last]).map (·.segment.toList)) = some node ∧
      follow? inList after ((steps ++ [last]).map (·.segment.toList)) = some (change node) := by
  induction steps generalizing inList nodes after with
  | nil =>
      obtain ⟨index, node, located, isChanged, rfl⟩ := changeField_eq_ok_iff.mp changed
      cases isChanged
      rw [locate_eq_ok_iff] at located
      refine ⟨[], index, nodes, nodes.get index, rfl, List.getElem?_eq_getElem index.isLt, rfl, ?_, ?_⟩
      · rw [List.nil_append, List.map_singleton, follow?_singleton, String.ofList_toList,
          named?_eq located]
      · rw [List.nil_append, List.map_singleton, follow?_singleton, String.ofList_toList]
        exact named?_set located (keepsKey _)
  | cons step rest inductionHypothesis =>
      obtain ⟨index, children, located, -, childrenChanged, rfl⟩ :=
        changeLevel_cons_eq_ok_iff.mp changed
      rw [locate_eq_ok_iff] at located
      obtain ⟨level, inner, fields, node, stands, isNode, rfl, foundBefore, foundAfter⟩ :=
        inductionHypothesis childrenChanged
      have more : (rest ++ [last]).map (·.segment.toList) ≠ [] := by simp
      refine ⟨index :: level, inner, fields, node, ?_, isNode,
        (InstanceNode.replaceAt_cons index level).symm, ?_, ?_⟩
      · rw [InstanceNode.levelAt?, List.getElem?_eq_getElem index.isLt]
        exact stands
      · rw [List.cons_append, List.map_cons, follow?_cons _ _ _ more, String.ofList_toList,
          named?_eq located, Option.bind_some, isList_eq]
        exact foundBefore
      · rw [List.cons_append, List.map_cons, follow?_cons _ _ _ more, String.ofList_toList]
        refine (congrArg (Option.bind · _) (named?_set located ?_)).trans ?_
        · rfl
        · rw [Option.bind_some, isList_eq]
          exact foundAfter

end Path

end Formwork
