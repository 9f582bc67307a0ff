/-
This file shows what changes at dotted paths keep: a refused change leaves all fields as they are,
and whatever holds of all levels of fields and is kept by a change of one level is kept by the change
at the end of a path.
-/

import Formwork.Instance.Path

namespace Formwork

/-- A field with what is inside it put back is the same field. -/
theorem InstanceNode.withChildren_self (node : InstanceNode) {children : List InstanceNode}
    (same : children = node.children) : { node with children := children } = node := by
  subst same
  cases node
  rfl

namespace Path

variable {Answer : Type}

section

variable {step : Step}
  {change : (nodes : List InstanceNode) → Fin nodes.length →
    Except Error Answer × List InstanceNode}

theorem atPlace_eq {inList : Bool} {nodes : List InstanceNode} {index : Fin nodes.length}
    (located : locate inList nodes step = .ok index) :
    atPlace step change inList nodes = change nodes index := by
  rw [atPlace, located]

/-- A change at a place is not refused if the place is found and the change there is not refused. -/
theorem atPlace_eq_ok_iff {inList : Bool} {nodes after : List InstanceNode} {answer : Answer} :
    atPlace step change inList nodes = (.ok answer, after) ↔
      ∃ index, locate inList nodes step = .ok index ∧ change nodes index = (.ok answer, after) := by
  constructor
  · intro changed
    rw [atPlace] at changed
    split at changed
    · cases changed
    · rename_i index located
      exact ⟨index, located, changed⟩
  · rintro ⟨index, located, changed⟩
    rw [atPlace_eq located, changed]

end

theorem changeLevel_cons (change : LevelChange Answer) (step : Step) (rest : List Step) :
    changeLevel change (step :: rest) =
      atPlace step fun nodes index =>
        if (nodes.get index).shape = .scalar then (.error (.notAContainer step.path), nodes)
        else
          ((changeLevel change rest ((nodes.get index).shape == .list)
              (nodes.get index).children).1,
            nodes.set index { nodes.get index with
              children := (changeLevel change rest ((nodes.get index).shape == .list)
                (nodes.get index).children).2 }) :=
  rfl

theorem changeField_eq (change : FieldChange) (step : Step) :
    changeField change step =
      atPlace step fun nodes index =>
        ((change (nodes.get index)).1, nodes.set index (change (nodes.get index)).2) :=
  rfl

/-- A step of a change goes into an object or a list, and the changed fields take the place of those
inside it. -/
theorem changeLevel_cons_eq_ok_iff {change : LevelChange Answer} {step : Step} {rest : List Step}
    {inList : Bool} {nodes after : List InstanceNode} {answer : Answer} :
    changeLevel change (step :: rest) inList nodes = (.ok answer, after) ↔
      ∃ index children, locate inList nodes step = .ok index ∧
        (nodes.get index).shape ≠ .scalar ∧
        changeLevel change rest ((nodes.get index).shape == .list) (nodes.get index).children =
          (.ok answer, children) ∧
        nodes.set index { nodes.get index with children := children } = after := by
  rw [changeLevel_cons, atPlace_eq_ok_iff]
  constructor
  · rintro ⟨index, located, changed⟩
    split at changed
    · cases changed
    · rename_i notScalar
      obtain ⟨answered, same⟩ := Prod.mk.inj changed
      exact ⟨index, _, located, notScalar, Prod.ext answered rfl, same⟩
  · rintro ⟨index, children, located, notScalar, childrenChanged, rfl⟩
    refine ⟨index, located, ?_⟩
    rw [if_neg notScalar, childrenChanged]

/-- A refused change leaves the fields as they are. -/
def Atomic (change : LevelChange Answer) : Prop :=
  ∀ {inList : Bool} {nodes : List InstanceNode} {error : Error},
    (change inList nodes).1 = .error error → (change inList nodes).2 = nodes

theorem atomic_atPlace {step : Step}
    {change : (nodes : List InstanceNode) → Fin nodes.length →
      Except Error Answer × List InstanceNode}
    (atomic : ∀ {nodes : List InstanceNode} (index : Fin nodes.length) {error : Error},
      (change nodes index).1 = .error error → (change nodes index).2 = nodes) :
    Atomic (atPlace step change) := by
  intro inList nodes error refused
  rw [atPlace] at refused ⊢
  split
  · rfl
  · rename_i index located
    rw [located] at refused
    exact atomic index refused

/-- What a refused change leaves inside a field is what was there, and so it is put back as it was. -/
theorem atomic_changeLevel {change : LevelChange Answer} (atomic : Atomic change)
    (steps : List Step) : Atomic (changeLevel change steps) := by
  induction steps with
  | nil => exact atomic
  | cons step rest inductionHypothesis =>
      rw [changeLevel_cons]
      apply atomic_atPlace
      intro nodes index error refused
      split at refused
      · rename_i scalar
        rw [if_pos scalar]
      · rename_i notScalar
        have same := InstanceNode.withChildren_self _ (inductionHypothesis refused)
        rw [if_neg notScalar]
        exact (congrArg (nodes.set index) same).trans (List.set_getElem_self index.isLt)

theorem atomic_atLast {path : String} {change : Step → LevelChange Answer}
    (atomic : ∀ step, Atomic (change step)) {nodes : List InstanceNode} {error : Error}
    (refused : (atLast path change nodes).1 = .error error) : (atLast path change nodes).2 = nodes := by
  simp only [atLast] at refused ⊢
  split
  · rename_i last isLast
    rw [isLast] at refused
    exact atomic_changeLevel (atomic last) _ refused
  · rfl

theorem atomic_update {path : String} {change : FieldChange}
    (atomic : ∀ {node : InstanceNode} {error : Error},
      (change node).1 = .error error → (change node).2 = node)
    {nodes : List InstanceNode} {error : Error}
    (refused : (update path change nodes).1 = .error error) :
    (update path change nodes).2 = nodes := by
  refine atomic_atLast (fun step => ?_) refused
  rw [changeField_eq]
  apply atomic_atPlace
  intro level index _ fieldRefused
  rw [atomic fieldRefused]
  exact List.set_getElem_self index.isLt

/-- A change that no field refuses is only refused where the path leads nowhere. -/
theorem atomic_update_total (change : InstanceNode → InstanceNode) {path : String}
    {nodes : List InstanceNode} {error : Error}
    (refused : (update path (fun node => (.ok (), change node)) nodes).1 = .error error) :
    (update path (fun node => (.ok (), change node)) nodes).2 = nodes := by
  refine atomic_update (fun fieldRefused => ?_) refused
  cases fieldRefused

theorem atomic_remove {path : String} {nodes : List InstanceNode} {error : Error}
    (refused : (remove path nodes).1 = .error error) : (remove path nodes).2 = nodes := by
  refine atomic_atLast (fun step => atomic_atPlace ?_) refused
  intro level index _ notRemoved
  cases notRemoved

/-- A new field is put behind the others of its level if they have keys and none has the same. -/
theorem append_eq_ok_iff {parent : String} {field : InstanceNode} {inList : Bool}
    {nodes after : List InstanceNode} {answer : Unit} :
    append parent field inList nodes = (.ok answer, after) ↔
      inList = false ∧ nodes.any (·.key == field.key) = false ∧ nodes ++ [field] = after := by
  rw [append]
  cases inList with
  | true => simp
  | false => cases nodes.any (·.key == field.key) <;> simp

theorem atomic_append (parent : String) (field : InstanceNode) : Atomic (append parent field) := by
  intro inList nodes error refused
  rw [append] at refused ⊢
  split
  · rfl
  · rename_i notList
    split
    · rfl
    · rename_i new
      rw [if_neg notList, if_neg new] at refused
      cases refused

theorem atomic_add {parent : String} {field : InstanceNode} {nodes : List InstanceNode}
    {error : Error} (refused : (add parent field nodes).1 = .error error) :
    (add parent field nodes).2 = nodes :=
  atomic_changeLevel (atomic_append parent field) (stepsInto parent) refused

/-- What holds of a level is told by its fields and by whether they are items of a list. -/
abbrev LevelProperty := Bool → List InstanceNode → Prop

/-- The level inside a field has what its own level has, and takes it along when it is changed. -/
structure LevelProperty.Nested (good : LevelProperty) : Prop where
  inside {inList : Bool} {nodes : List InstanceNode} (index : Fin nodes.length) :
    good inList nodes → (nodes.get index).shape ≠ .scalar →
      good ((nodes.get index).shape == .list) (nodes.get index).children
  around {inList : Bool} {nodes children : List InstanceNode} (index : Fin nodes.length) :
    good inList nodes → (nodes.get index).shape ≠ .scalar →
      good ((nodes.get index).shape == .list) children →
        good inList (nodes.set index { nodes.get index with children := children })

/-- A change keeps what holds of the level that it changes. -/
def Keeps (good : LevelProperty) (change : LevelChange Answer) : Prop :=
  ∀ {inList : Bool} {nodes after : List InstanceNode} {answer : Answer},
    good inList nodes → change inList nodes = (.ok answer, after) → good inList after

variable {good : LevelProperty}

/-- A change at the end of steps keeps what a change of one level keeps. -/
theorem keeps_changeLevel (nested : good.Nested) {change : LevelChange Answer}
    (kept : Keeps good change) (steps : List Step) : Keeps good (changeLevel change steps) := by
  induction steps with
  | nil => exact kept
  | cons step rest inductionHypothesis =>
      intro inList nodes after answer goodBefore changed
      obtain ⟨index, children, -, notScalar, childrenChanged, rfl⟩ :=
        changeLevel_cons_eq_ok_iff.mp changed
      exact nested.around index goodBefore notScalar
        (inductionHypothesis (nested.inside index goodBefore notScalar) childrenChanged)

theorem keeps_atLast (nested : good.Nested) {change : Step → LevelChange Answer}
    (kept : ∀ step, Keeps good (change step)) {path : String} {nodes after : List InstanceNode}
    {answer : Answer} (goodBefore : good false nodes)
    (changed : atLast path change nodes = (.ok answer, after)) : good false after := by
  simp only [atLast] at changed
  split at changed
  · exact keeps_changeLevel nested (kept _) _ goodBefore changed
  · cases changed

/-- Another field at the place of one keeps the level good. -/
def KeepsAt (good : LevelProperty) (change : FieldChange) : Prop :=
  ∀ {inList : Bool} {nodes : List InstanceNode} (index : Fin nodes.length) {node : InstanceNode},
    good inList nodes → change (nodes.get index) = (.ok (), node) → good inList (nodes.set index node)

theorem changeField_eq_ok_iff {change : FieldChange} {step : Step} {inList : Bool}
    {nodes after : List InstanceNode} {answer : Unit} :
    changeField change step inList nodes = (.ok answer, after) ↔
      ∃ index node, locate inList nodes step = .ok index ∧
        change (nodes.get index) = (.ok (), node) ∧ nodes.set index node = after := by
  rw [changeField_eq, atPlace_eq_ok_iff]
  constructor
  · rintro ⟨index, located, changed⟩
    obtain ⟨answered, same⟩ := Prod.mk.inj changed
    exact ⟨index, _, located, Prod.ext answered rfl, same⟩
  · rintro ⟨index, node, located, changed, rfl⟩
    exact ⟨index, located, by rw [changed]⟩

theorem keeps_update (nested : good.Nested) {change : FieldChange} (kept : KeepsAt good change)
    {path : String} {nodes after : List InstanceNode} (goodBefore : good false nodes)
    (updated : update path change nodes = (.ok (), after)) : good false after := by
  refine keeps_atLast nested (fun step => ?_) goodBefore updated
  intro inList level levelAfter answer levelGood changed
  obtain ⟨index, node, -, nodeChanged, rfl⟩ := changeField_eq_ok_iff.mp changed
  exact kept index levelGood nodeChanged

theorem keeps_remove (nested : good.Nested)
    (kept : ∀ {inList : Bool} {nodes : List InstanceNode} (index : Fin nodes.length),
      good inList nodes → good inList (nodes.eraseIdx index))
    {path : String} {nodes after : List InstanceNode} {removed : InstanceNode}
    (goodBefore : good false nodes) (changed : remove path nodes = (.ok removed, after)) :
    good false after := by
  refine keeps_atLast nested (fun step => ?_) goodBefore changed
  intro inList level rest answer levelGood erased
  obtain ⟨index, -, same⟩ := atPlace_eq_ok_iff.mp erased
  cases same
  exact kept index levelGood

theorem keeps_add (nested : good.Nested) {field : InstanceNode}
    (kept : ∀ {nodes : List InstanceNode}, good false nodes →
      nodes.any (·.key == field.key) = false → good false (nodes ++ [field]))
    {parent : String} {nodes after : List InstanceNode} (goodBefore : good false nodes)
    (added : add parent field nodes = (.ok (), after)) : good false after := by
  refine keeps_changeLevel nested ?_ (stepsInto parent) goodBefore added
  intro inList level rest answer levelGood appended
  obtain ⟨rfl, new, rfl⟩ := append_eq_ok_iff.mp appended
  exact kept levelGood new

end Path

end Formwork
