/-
This file shows how edits are taken back: the old value and the old state of a field restore all
fields, and so does removing the item that was pushed or the field that was added, as long as no dot
in its key is taken for the end of a segment.
-/

import Formwork.Proofs.Instance.Behind
import Formwork.Proofs.Instance.Joined
import Formwork.Proofs.Session.Addressed
import Formwork.SizedEngine

namespace Formwork

section

variable [PatternEngine]

namespace Session

/-- After an edit a second one has the answer and brings back the fields that were there before both.
A store that refuses no writes holds them then. -/
def TakesBack (session : Session) (edit back : Edit) (answer : Option InstanceNode) : Prop :=
  ((session.perform edit).2.perform back).1 = .ok answer ∧
    ((session.perform edit).2.perform back).2.nodes = session.nodes ∧
    (session.store.readOnly = false →
      ((session.perform edit).2.perform back).2.store.get? session.key =
        some (.arr (InstanceNode.nodesToJson (InstanceNode.sanitizedAll session.nodes))))

theorem takesBack_of_apply {session : Session} {edit back : Edit}
    {removed answer : Option InstanceNode} {after : List InstanceNode}
    (applied : edit.apply session.options session.schema session.nodes = (.ok removed, after))
    (appliedBack : back.apply session.options session.schema after = (.ok answer, session.nodes)) :
    session.TakesBack edit back answer := by
  have edited := perform_of_apply applied
  have editedBack : (session.perform edit).2.perform back = _ :=
    perform_of_apply (by rw [edited]; exact appliedBack)
  rw [TakesBack, editedBack, edited]
  refine ⟨rfl, rfl, fun writable => ?_⟩
  have stillWritable : (session.saving after).store.readOnly = false :=
    Store.readOnly_keep writable session.key after
  exact (get?_store_saving stillWritable session.nodes session.key).trans (if_pos rfl)

/-- A change of the target that no field refuses is taken back by an edit that undoes it there. -/
theorem takesBack_of_update {session : Session} {edit : Edit} {back : InstanceNode → Edit}
    {path : String} (change : InstanceNode → InstanceNode)
    (changeBack : InstanceNode → InstanceNode → InstanceNode)
    (keepsKey : ∀ node, (change node).key = node.key)
    (restores : ∀ node, changeBack node (change node) = node)
    (applies : edit.apply session.options session.schema session.nodes =
      Edit.apply.only (Path.update path (fun node => (.ok (), change node)) session.nodes))
    (appliesBack : ∀ node nodes, (back node).apply session.options session.schema nodes =
      Edit.apply.only (Path.update path (fun field => (.ok (), changeBack node field)) nodes))
    {removed : Option InstanceNode} (done : (session.perform edit).1 = .ok removed) :
    ∃ node, Path.target? path session.nodes = some node ∧ session.TakesBack edit (back node) none := by
  obtain ⟨after, applied, -⟩ := apply_of_done done
  rw [applies] at applied
  obtain ⟨updated, rfl⟩ := Edit.only_eq_ok_iff.mp applied
  obtain ⟨node, changed, isTarget, -, isChanged, undo⟩ :=
    Path.target?_of_update (by rintro node _ ⟨⟩; exact keepsKey node) updated
  cases isChanged
  refine ⟨node, isTarget, takesBack_of_apply (applies.trans applied) ?_⟩
  rw [appliesBack, Edit.only_eq_ok_iff]
  exact ⟨undo _ (congrArg (Prod.mk _) (restores node)), rfl⟩

end Session

end

namespace Path

/-- A pushed item stands behind all others in the target, and the steps of the path lead to it. -/
theorem differBehind_of_withItem {path : String} {nodes after : List InstanceNode}
    (pushed : update path (InstanceNode.withItem path) nodes = (.ok (), after)) :
    ∃ node, target? path nodes = some node ∧
      target? path after = some { node with children := node.children ++ [node.nextItem] } ∧
      DifferBehind true node.children (node.children ++ [node.nextItem]) (steps path) false nodes
        after := by
  obtain ⟨front, last, inside, level, index, changed, isConcat, located, isChanged, differ⟩ :=
    update_eq_ok_iff.mp pushed
  obtain ⟨isList, rfl⟩ := InstanceNode.eq_of_withItem isChanged
  have isInside : ((level.get index).shape == .list) = true := by rw [isList]; rfl
  refine ⟨level.get index, ?_, ?_, ?_⟩
  · rw [target?_eq isConcat differ, named?_eq located]
  · exact (target?_eq isConcat differ.symm).trans (named?_set located rfl)
  · have notScalar : (level.get index).shape ≠ .scalar := by
      rw [isList]
      exact nofun
    rw [isConcat, ← isInside]
    exact differ.append (.through located rfl notScalar .here)

theorem length_lt_concat (level : List InstanceNode) (field : InstanceNode) :
    level.length < (level ++ [field]).length :=
  List.length_append ▸ Nat.lt_add_one level.length

/-- A field behind all others of its level is removed again where the path finds it. -/
theorem remove_last {path : String} {front : List Step} {last : Step}
    (isConcat : steps path = front ++ [last]) {inside : Bool}
    {level nodes after : List InstanceNode} {field : InstanceNode}
    (differ : DifferBehind inside level (level ++ [field]) front false nodes after)
    (located : position? inside (level ++ [field]) last.segment =
      some ⟨level.length, length_lt_concat level field⟩) :
    remove path after = (.ok field, nodes) := by
  refine remove_eq_ok_iff.mpr ⟨front, last, inside, level ++ [field], _, isConcat, located,
    by simp, ?_⟩
  have isErased : (level ++ [field]).eraseIdx level.length = level := by
    rw [List.eraseIdx_append_of_length_le (Nat.le_refl _)]
    simp
  rw [isErased]
  exact differ.symm

/-- An item is removed again at its place. -/
theorem remove_item {path : String} (nonempty : path ≠ "") {nodes after children : List InstanceNode}
    {item : InstanceNode}
    (differ : DifferBehind true children (children ++ [item]) (steps path) false nodes after) :
    remove (path ++ "." ++ Nat.repr children.length) after = (.ok item, nodes) := by
  have isConcat := steps_join path (undotted_repr children.length)
  rw [join, stepsInto, if_neg (by simpa using nonempty), if_neg (by simpa using nonempty)]
    at isConcat
  exact remove_last isConcat differ (by simp [position?, index?_repr])

/-- A segment that names no field of a level names the one that is put behind all others. -/
theorem position?_added {level : List InstanceNode} {field : InstanceNode}
    (new : level.any (·.key == field.key) = false) :
    position? false (level ++ [field]) field.key =
      some ⟨level.length, length_lt_concat level field⟩ := by
  rw [position?, if_neg Bool.false_ne_true, List.findFinIdx?_eq_some_iff]
  rw [List.any_eq_false] at new
  refine ⟨by simp, fun earlier before => ?_⟩
  have inRange : earlier.val < level.length := before
  simpa [List.getElem_append_left inRange] using new level[earlier.val] (List.getElem_mem inRange)

section

variable {parent : String} {field : InstanceNode} {nodes after : List InstanceNode}
  (added : add parent field nodes = (.ok (), after))
include added

/-- An added field is removed again behind the path of its parent if its key is one segment. -/
theorem remove_added (undotted : '.' ∉ field.key.toList) :
    remove (join parent field.key) after = (.ok field, nodes) := by
  obtain ⟨level, new, differ⟩ := add_eq_ok_iff.mp added
  exact remove_last (steps_join parent undotted) differ (position?_added new)

/-- A key with a dot is taken for several segments. They lead to a field with another key, or past the
level of the added field, which then has one field more than before. -/
theorem remove_ne_of_dotted (dotted : '.' ∈ field.key.toList) :
    remove (join parent field.key) after ≠ (.ok field, nodes) := by
  intro removed
  obtain ⟨level, new, differ⟩ := add_eq_ok_iff.mp added
  obtain ⟨front, last, inside, reached, index, isConcat, located, isRemoved, differBack⟩ :=
    remove_eq_ok_iff.mp removed
  have undotted : '.' ∉ last.segment.toList :=
    undotted_segment (by rw [isConcat]; exact List.mem_concat_self)
  cases inside with
  | false =>
      rw [position?, if_neg Bool.false_ne_true, List.findFinIdx?_eq_some_iff] at located
      have sameKey : field.key = last.segment := by
        rw [← isRemoved]
        simpa using located.1
      exact undotted (sameKey ▸ dotted)
  | true =>
      obtain ⟨between, other, isBehind⟩ := exists_steps_join parent field.key
      obtain ⟨rfl, -⟩ := List.append_inj' (isConcat.symm.trans isBehind) rfl
      obtain ⟨around, middle, middleAfter, outer, inner⟩ := differBack.of_append
      obtain ⟨rfl, rfl⟩ := outer.unique differ.symm
      obtain ⟨-, rfl⟩ := outer.symm.unique differ
      cases between with
      | nil => cases inner
      | cons step rest =>
          have sameLength := inner.length_eq (List.cons_ne_nil step rest)
          simp at sameLength

end

end Path

/-- The old value of a field takes a new one back, and so does its old state. An item that is pushed
is removed again at its place, which is the number of items before it. All fields are then what they
were, and if the store refuses no writes it holds them. -/
theorem edits_taken_back [PatternEngine] (session : Session) (path : String) :
    (∀ value removed, (session.perform (.setValue path value)).1 = .ok removed →
        ∃ node, Path.target? path session.nodes = some node ∧
          session.TakesBack (.setValue path value) (.setValue path node.value) none) ∧
      (∀ enabled removed, (session.perform (.setEnabled path enabled)).1 = .ok removed →
        ∃ node, Path.target? path session.nodes = some node ∧
          session.TakesBack (.setEnabled path enabled) (.setEnabled path node.enabled) none) ∧
      (path ≠ "" → ∀ removed, (session.perform (.pushItem path)).1 = .ok removed →
        ∃ node item, Path.target? path session.nodes = some node ∧
          Path.target? path (session.perform (.pushItem path)).2.nodes =
            some { node with children := node.children ++ [item] } ∧
          session.TakesBack (.pushItem path)
            (.remove (path ++ "." ++ Nat.repr node.children.length)) (some item)) := by
  refine ⟨?_, ?_, ?_⟩
  · intro value removed done
    exact Session.takesBack_of_update (fun node => { node with value := value })
      (fun node field => { field with value := node.value }) (fun _ => rfl)
      (fun node => by cases node; rfl) rfl (fun _ _ => rfl) done
  · intro enabled removed done
    exact Session.takesBack_of_update (fun node => { node with enabled := enabled })
      (fun node field => { field with enabled := node.enabled }) (fun _ => rfl)
      (fun node => by cases node; rfl) rfl (fun _ _ => rfl) done
  · intro nonempty removed done
    obtain ⟨after, applied, isAfter⟩ := Session.apply_of_done done
    obtain ⟨pushed, rfl⟩ := Edit.only_eq_ok_iff.mp applied
    obtain ⟨node, isTarget, isPushed, differ⟩ := Path.differBehind_of_withItem pushed
    rw [isAfter]
    refine ⟨node, node.nextItem, isTarget, isPushed, Session.takesBack_of_apply applied ?_⟩
    exact Session.answering_eq_ok_iff.mpr ⟨_, Path.remove_item nonempty differ, rfl⟩

/-- The first tag, also under another spelling of its number, is empty and on again, and a third one
is removed again. -/
theorem edits_taken_back_tags :
    taggedForm.TakesBack (.setValue "tags.+0" (.str "b")) (.setValue "tags.+0" (.str "")) none ∧
      taggedForm.TakesBack (.setEnabled "tags.+0" false) (.setEnabled "tags.+0" true) none ∧
      "tags" ≠ "" ∧
      taggedForm.TakesBack (.pushItem "tags") (.remove "tags.2") (some (.fresh "" .text)) ∧
      taggedForm.store.readOnly = false := by
  have nonempty : "tags" ≠ "" := by decide
  have valued : (taggedForm.perform (.setValue "tags.+0" (.str "b"))).1 = .ok none := rfl
  have disabled : (taggedForm.perform (.setEnabled "tags.+0" false)).1 = .ok none := rfl
  have pushed : (taggedForm.perform (.pushItem "tags")).1 = .ok none := rfl
  have isTag : Path.target? "tags.+0" taggedForm.nodes = some (.fresh "" .text) := by decide +kernel
  have isList : Path.target? "tags" taggedForm.nodes = some taggedForm.nodes[1] := by decide +kernel
  have isPushed : Path.target? "tags" (taggedForm.perform (.pushItem "tags")).2.nodes =
      some { taggedForm.nodes[1] with
        children := taggedForm.nodes[1].children ++ [.fresh "" .text] } := by
    decide +kernel
  have twoTags : taggedForm.nodes[1].children.length = 2 := by decide +kernel
  obtain ⟨tag, tagIs, valueBack⟩ :=
    (edits_taken_back taggedForm "tags.+0").1 (.str "b") none valued
  obtain ⟨sameTag, sameTagIs, stateBack⟩ :=
    (edits_taken_back taggedForm "tags.+0").2.1 false none disabled
  obtain ⟨list, item, listIs, pushedIs, removed⟩ :=
    (edits_taken_back taggedForm "tags").2.2 nonempty none pushed
  obtain rfl := Option.some.inj (isTag.symm.trans tagIs)
  obtain rfl := Option.some.inj (isTag.symm.trans sameTagIs)
  obtain rfl := Option.some.inj (isList.symm.trans listIs)
  have isItem : item = .fresh "" .text := by
    have same := Option.some.inj (pushedIs.symm.trans isPushed)
    simpa using congrArg InstanceNode.children same
  rw [twoTags, isItem] at removed
  exact ⟨valueBack, stateBack, nonempty, removed, rfl⟩

/-- An added field is taken back by removing it behind the path of its parent, exactly if its key has
no dot. -/
theorem addField_taken_back_iff [PatternEngine] {session : Session} {parent key : String}
    {type : FieldType} {removed : Option InstanceNode}
    (done : (session.perform (.addField parent key type)).1 = .ok removed) :
    session.TakesBack (.addField parent key type) (.remove (Path.join parent key))
        (some (.added key type)) ↔
      '.' ∉ key.toList := by
  obtain ⟨after, applied, isAfter⟩ := Session.apply_of_done done
  obtain ⟨added, -⟩ := Edit.only_eq_ok_iff.mp applied
  constructor
  · rintro ⟨isRemoved, restored, -⟩ dotted
    obtain ⟨rest, appliedBack, isRest⟩ := Session.apply_of_done isRemoved
    obtain ⟨field, isOk, same⟩ := Session.answering_eq_ok_iff.mp appliedBack
    cases same
    rw [isAfter, ← isRest, restored] at isOk
    exact Path.remove_ne_of_dotted added dotted isOk
  · intro undotted
    have isRemoved := Path.remove_added added undotted
    refine Session.takesBack_of_apply applied ?_
    exact Session.answering_eq_ok_iff.mpr ⟨_, isRemoved, rfl⟩

/-- An address is added behind a name and tags, and removed again. -/
theorem addField_taken_back_iff_address :
    (taggedForm.perform (.addField "" "address" .object)).1 = .ok none ∧
      '.' ∉ "address".toList ∧
      taggedForm.TakesBack (.addField "" "address" .object) (.remove "address")
        (some (.added "address" .object)) := by
  have done : (taggedForm.perform (.addField "" "address" .object)).1 = .ok none := rfl
  have undotted : '.' ∉ "address".toList := by decide
  exact ⟨done, undotted, (addField_taken_back_iff done).mpr undotted⟩

/-- A field with a dot in its key is not found again, or another field is removed in its place. -/
theorem dotted_key_not_removed :
    (taggedForm.perform (.addField "" "a.b" .text)).1 = .ok none ∧
      ((taggedForm.perform (.addField "" "a.b" .text)).2.perform (.remove (Path.join "" "a.b"))).1 =
        .error (.pathNotFound "a") ∧
      (taggedForm.perform (.addField "" "tags.0" .text)).1 = .ok none ∧
      ((taggedForm.perform (.addField "" "tags.0" .text)).2.perform
          (.remove (Path.join "" "tags.0"))).1 =
        .ok (some (.fresh "" .text)) :=
  ⟨rfl, rfl, rfl, rfl⟩

end Formwork
