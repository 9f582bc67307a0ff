/-
This file compares fields that differ in one level only, the one that the steps of a path lead to.
Every change at a path makes such fields, and neither side of the comparison is before the other.
-/

import Formwork.Proofs.Instance.Addressed

namespace Formwork

namespace Path

/-- The steps lead from both `nodes` and `after` to a level, which is `level` in the former and
`levelAfter` in the latter. Nothing else differs. -/
inductive DifferBehind (inside : Bool) (level levelAfter : List InstanceNode) :
    List Step → Bool → List InstanceNode → List InstanceNode → Prop
  | here : DifferBehind inside level levelAfter [] inside level levelAfter
  | through {step : Step} {rest : List Step} {inList : Bool} {nodes children : List InstanceNode}
      {node : InstanceNode} {index : Fin nodes.length}
      (located : position? inList nodes step.segment = some index) (isNode : nodes.get index = node)
      (notScalar : node.shape ≠ .scalar)
      (differ : DifferBehind inside level levelAfter rest (node.shape == .list) node.children
        children) :
      DifferBehind inside level levelAfter (step :: rest) inList nodes
        (nodes.set index { node with children := children })

/-- A change behind steps is a change of the level that they lead to. -/
theorem changeLevel_eq_ok_iff {Answer : Type} {change : LevelChange Answer} {steps : List Step}
    {inList : Bool} {nodes after : List InstanceNode} {answer : Answer} :
    changeLevel change steps inList nodes = (.ok answer, after) ↔
      ∃ inside level levelAfter, DifferBehind inside level levelAfter steps inList nodes after ∧
        change inside level = (.ok answer, levelAfter) := by
  induction steps generalizing inList nodes after with
  | nil =>
      constructor
      · exact fun changed => ⟨inList, nodes, after, .here, changed⟩
      · rintro ⟨_, _, _, ⟨⟩, changed⟩
        exact changed
  | cons step rest inductionHypothesis =>
      rw [changeLevel_cons_eq_ok_iff]
      constructor
      · rintro ⟨index, children, located, notScalar, childrenChanged, rfl⟩
        obtain ⟨inside, level, levelAfter, differ, changed⟩ :=
          inductionHypothesis.mp childrenChanged
        exact ⟨inside, level, levelAfter,
          .through (locate_eq_ok_iff.mp located) rfl notScalar differ, changed⟩
      · rintro ⟨inside, level, levelAfter, ⟨⟩ | ⟨located, rfl, notScalar, differ⟩, changed⟩
        exact ⟨_, _, locate_eq_ok_iff.mpr located, notScalar,
          inductionHypothesis.mpr ⟨inside, level, levelAfter, differ, changed⟩, rfl⟩

namespace DifferBehind

variable {inside : Bool} {level levelAfter : List InstanceNode} {steps : List Step} {inList : Bool}
  {nodes after : List InstanceNode}

/-- The steps find their way in the changed fields as well, because a change inside a field leaves
its key and its type. -/
theorem symm (differ : DifferBehind inside level levelAfter steps inList nodes after) :
    DifferBehind inside levelAfter level steps inList after nodes := by
  induction differ with
  | here => exact .here
  | @through step rest inList nodes children node index located isNode notScalar _
      inductionHypothesis =>
      obtain ⟨key, type, value, enabled, own, childDef, info⟩ := node
      have sameKey : key = (nodes.get index).key := by rw [isNode]
      have isChanged : (nodes.set index ⟨key, type, value, enabled, children, childDef, info⟩).get
          (index.cast List.length_set.symm) =
            ⟨key, type, value, enabled, children, childDef, info⟩ := by
        simp
      have back := through (position?_set located sameKey) isChanged notScalar inductionHypothesis
      have restored : nodes.set index ⟨key, type, value, enabled, own, childDef, info⟩ = nodes := by
        rw [← isNode]
        exact List.set_getElem_self index.isLt
      rw [Fin.val_cast, List.set_set] at back
      exact (congrArg (DifferBehind inside levelAfter level _ _ _) restored).mp back

/-- Steps may lead on behind steps. -/
theorem append {more : List Step} {deeper : Bool} {deepest deepestAfter : List InstanceNode}
    (differ : DifferBehind inside level levelAfter steps inList nodes after)
    (differInside : DifferBehind deeper deepest deepestAfter more inside level levelAfter) :
    DifferBehind deeper deepest deepestAfter (steps ++ more) inList nodes after := by
  induction differ with
  | here => exact differInside
  | through located isNode notScalar _ inductionHypothesis =>
      exact .through located isNode notScalar inductionHypothesis

theorem of_append {first second : List Step}
    (differ : DifferBehind inside level levelAfter (first ++ second) inList nodes after) :
    ∃ between middle middleAfter, DifferBehind between middle middleAfter first inList nodes after ∧
      DifferBehind inside level levelAfter second between middle middleAfter := by
  induction first generalizing inList nodes after with
  | nil => exact ⟨inList, nodes, after, .here, differ⟩
  | cons step first inductionHypothesis =>
      obtain _ | ⟨located, isNode, notScalar, differ⟩ := differ
      obtain ⟨between, middle, middleAfter, outer, inner⟩ := inductionHypothesis differ
      exact ⟨between, middle, middleAfter, .through located isNode notScalar outer, inner⟩

/-- Steps lead to one level only. -/
theorem unique {other : Bool} {second secondAfter otherAfter : List InstanceNode}
    (differ : DifferBehind inside level levelAfter steps inList nodes after)
    (differToo : DifferBehind other second secondAfter steps inList nodes otherAfter) :
    other = inside ∧ second = level := by
  induction differ generalizing otherAfter with
  | here =>
      cases differToo
      exact ⟨rfl, rfl⟩
  | through located isNode _ _ inductionHypothesis =>
      obtain _ | ⟨locatedToo, isNodeToo, _, differInside⟩ := differToo
      obtain rfl := Option.some.inj (located.symm.trans locatedToo)
      obtain rfl := isNode.symm.trans isNodeToo
      exact inductionHypothesis differInside

/-- A change behind a step neither adds fields in front of it nor takes any away. -/
theorem length_eq (differ : DifferBehind inside level levelAfter steps inList nodes after)
    (someStep : steps ≠ []) : after.length = nodes.length := by
  cases differ with
  | here => exact absurd rfl someStep
  | through => exact List.length_set

/-- Segments behind the steps are followed from the level. -/
theorem follow?_eq (differ : DifferBehind inside level levelAfter steps inList nodes after)
    {rest : List (List Char)} (more : rest ≠ []) :
    follow? inList nodes (steps.map (·.segment.toList) ++ rest) = follow? inside level rest := by
  induction differ with
  | here => rfl
  | through located isNode _ _ inductionHypothesis =>
      rw [List.map_cons, List.cons_append, follow?_cons _ _ _ (by simp [more]), String.ofList_toList,
        named?_eq located, isNode, Option.bind_some, isList_eq]
      exact inductionHypothesis

end DifferBehind

/-! What each change at a path does, and when it succeeds. -/

theorem atLast_eq_ok_iff {Answer : Type} {path : String} {change : Step → LevelChange Answer}
    {nodes after : List InstanceNode} {answer : Answer} :
    atLast path change nodes = (.ok answer, after) ↔
      ∃ front last inside level levelAfter, steps path = front ++ [last] ∧
        DifferBehind inside level levelAfter front false nodes after ∧
        change last inside level = (.ok answer, levelAfter) := by
  simp only [atLast]
  constructor
  · intro changed
    split at changed
    · rename_i last isLast
      obtain ⟨front, isConcat⟩ := List.getLast?_eq_some_iff.mp isLast
      rw [isConcat, List.dropLast_concat] at changed
      obtain ⟨inside, level, levelAfter, differ, levelChanged⟩ := changeLevel_eq_ok_iff.mp changed
      exact ⟨front, last, inside, level, levelAfter, isConcat, differ, levelChanged⟩
    · cases changed
  · rintro ⟨front, last, inside, level, levelAfter, isConcat, differ, levelChanged⟩
    rw [isConcat, List.getLast?_concat, List.dropLast_concat]
    exact changeLevel_eq_ok_iff.mpr ⟨inside, level, levelAfter, differ, levelChanged⟩

theorem update_eq_ok_iff {path : String} {change : FieldChange} {nodes after : List InstanceNode} :
    update path change nodes = (.ok (), after) ↔
      ∃ front last inside level index node, steps path = front ++ [last] ∧
        position? inside level last.segment = some index ∧
        change (level.get index) = (.ok (), node) ∧
        DifferBehind inside level (level.set index node) front false nodes after := by
  rw [update, atLast_eq_ok_iff]
  constructor
  · rintro ⟨front, last, inside, level, levelAfter, isConcat, differ, levelChanged⟩
    obtain ⟨index, node, located, isChanged, rfl⟩ := changeField_eq_ok_iff.mp levelChanged
    exact ⟨front, last, inside, level, index, node, isConcat, locate_eq_ok_iff.mp located, isChanged,
      differ⟩
  · rintro ⟨front, last, inside, level, index, node, isConcat, located, isChanged, differ⟩
    refine ⟨front, last, inside, level, level.set index node, isConcat, differ, ?_⟩
    exact changeField_eq_ok_iff.mpr ⟨index, node, locate_eq_ok_iff.mpr located, isChanged, rfl⟩

theorem remove_eq_ok_iff {path : String} {nodes after : List InstanceNode} {removed : InstanceNode} :
    remove path nodes = (.ok removed, after) ↔
      ∃ front last inside level index, steps path = front ++ [last] ∧
        position? inside level last.segment = some index ∧ level.get index = removed ∧
        DifferBehind inside level (level.eraseIdx index) front false nodes after := by
  rw [remove, atLast_eq_ok_iff]
  constructor
  · rintro ⟨front, last, inside, level, levelAfter, isConcat, differ, levelChanged⟩
    obtain ⟨index, located, same⟩ := atPlace_eq_ok_iff.mp levelChanged
    cases same
    exact ⟨front, last, inside, level, index, isConcat, locate_eq_ok_iff.mp located, rfl, differ⟩
  · rintro ⟨front, last, inside, level, index, isConcat, located, rfl, differ⟩
    refine ⟨front, last, inside, level, level.eraseIdx index, isConcat, differ, ?_⟩
    exact atPlace_eq_ok_iff.mpr ⟨index, locate_eq_ok_iff.mpr located, rfl⟩

theorem add_eq_ok_iff {parent : String} {field : InstanceNode} {nodes after : List InstanceNode} :
    add parent field nodes = (.ok (), after) ↔
      ∃ level, level.any (·.key == field.key) = false ∧
        DifferBehind false level (level ++ [field]) (stepsInto parent) false nodes after := by
  rw [add, changeLevel_eq_ok_iff]
  constructor
  · rintro ⟨inside, level, levelAfter, differ, appended⟩
    obtain ⟨rfl, new, rfl⟩ := append_eq_ok_iff.mp appended
    exact ⟨level, new, differ⟩
  · rintro ⟨level, new, differ⟩
    exact ⟨false, level, level ++ [field], differ, append_eq_ok_iff.mpr ⟨rfl, new, rfl⟩⟩

/-- The field that edits at a path change. -/
def target? (path : String) (nodes : List InstanceNode) : Option InstanceNode :=
  follow? false nodes ((steps path).map (·.segment.toList))

/-- It is the field that is read at the path, unless the path starts with a dot. -/
theorem target?_eq_node? {path : String} (unled : path.toList.head? ≠ some '.')
    (nodes : List InstanceNode) : target? path nodes = node? path nodes := by
  rw [target?, node?, segments_eq_map_steps unled]

theorem target?_eq {path : String} {front : List Step} {last : Step}
    (isConcat : steps path = front ++ [last]) {inside : Bool}
    {level levelAfter nodes after : List InstanceNode}
    (differ : DifferBehind inside level levelAfter front false nodes after) :
    target? path nodes = named? inside level last.segment := by
  rw [target?, isConcat, List.map_append, List.map_singleton,
    differ.follow?_eq (List.cons_ne_nil _ _), follow?_singleton, String.ofList_toList]

/-- A change at a path changes the target, and a change that takes it back there takes it back in all
fields. -/
theorem target?_of_update {change : FieldChange}
    (keepsKey : ∀ {node changed : InstanceNode}, change node = (.ok (), changed) →
      changed.key = node.key)
    {path : String} {nodes after : List InstanceNode}
    (updated : update path change nodes = (.ok (), after)) :
    ∃ node changed, target? path nodes = some node ∧ target? path after = some changed ∧
      change node = (.ok (), changed) ∧
      ∀ back : FieldChange, back changed = (.ok (), node) →
        update path back after = (.ok (), nodes) := by
  obtain ⟨front, last, inside, level, index, changed, isConcat, located, isChanged, differ⟩ :=
    update_eq_ok_iff.mp updated
  have stillLocated := position?_set located (keepsKey isChanged)
  refine ⟨level.get index, changed, ?_, ?_, isChanged, fun back isBack => ?_⟩
  · rw [target?_eq isConcat differ, named?_eq located]
  · rw [target?_eq isConcat differ.symm, named?_set located (keepsKey isChanged)]
  · refine update_eq_ok_iff.mpr ⟨front, last, inside, level.set index changed, _, level.get index,
      isConcat, stillLocated, ?_, ?_⟩
    · simpa using isBack
    · simpa using differ.symm

end Path

end Formwork
