/-
This file shows that edits at a path change the field that is read at the path, and no other.
-/

import Formwork.Proofs.Instance.Addressed
import Formwork.Proofs.Session.Run
import Formwork.SizedEngine

namespace Formwork

namespace Path

/-- A change at a path replaces the field that is read there by the changed one, which is read there
afterwards. -/
theorem replaced_of_update {change : InstanceNode → InstanceNode}
    (keepsKey : ∀ node, (change node).key = node.key) {path : String}
    (unled : path.toList.head? ≠ some '.') {nodes after : List InstanceNode}
    (updated : update path (fun node => (.ok (), change node)) nodes = (.ok (), after)) :
    ∃ node, node? path nodes = some node ∧ node? path after = some (change node) ∧
      InstanceNode.Replaced node (change node) nodes after := by
  simp only [update, atLast] at updated
  split at updated
  · rename_i last isLast
    obtain ⟨level, index, fields, node, stands, isNode, rfl, foundBefore, foundAfter⟩ :=
      replaced_of_changeField keepsKey updated
    have allSteps : (steps path).dropLast ++ [last] = steps path := by
      obtain ⟨before, appended⟩ := List.getLast?_eq_some_iff.mp isLast
      rw [appended, List.dropLast_concat]
    rw [allSteps, ← segments_eq_map_steps unled] at foundBefore foundAfter
    exact ⟨node, foundBefore, foundAfter, InstanceNode.replaced_replaceAt stands isNode⟩
  · cases updated

end Path

section

variable [PatternEngine]

namespace Session

/-- An edit that is not refused makes a change of the field at a path, which is read there before
and after it, and leaves all other fields as they are. -/
def ChangesOnly (session : Session) (edit : Edit) (path : String)
    (change : InstanceNode → InstanceNode) : Prop :=
  ∀ removed, (session.perform edit).1 = .ok removed →
    ∃ node, session.node? path = some node ∧
      (session.perform edit).2.node? path = some (change node) ∧
      InstanceNode.Replaced node (change node) session.nodes (session.perform edit).2.nodes

theorem changesOnly_of_update {session : Session} {edit : Edit} {path : String}
    {change : InstanceNode → InstanceNode} (keepsKey : ∀ node, (change node).key = node.key)
    (unled : path.toList.head? ≠ some '.')
    (applies : edit.apply session.options session.schema session.nodes =
      Edit.apply.only (Path.update path (fun node => (.ok (), change node)) session.nodes)) :
    session.ChangesOnly edit path change := by
  intro removed done
  obtain ⟨after, applied, isAfter⟩ := apply_of_done done
  rw [applies] at applied
  rw [node?, node?, isAfter]
  exact Path.replaced_of_update keepsKey unled (Edit.only_eq_ok_iff.mp applied).1

end Session

/-- Setting the value, the state or the type of the field at a path changes the field that is read
there, this part of it only, and no other field. A type of another shape also empties the field: its
value is the one of a new field, nothing is inside it, and the items of a new list are texts. -/
theorem set_at_path (session : Session) {path : String} (unled : path.toList.head? ≠ some '.')
    (value : Json) (enabled : Bool) (type : FieldType) :
    session.ChangesOnly (.setValue path value) path (fun node => { node with value := value }) ∧
      session.ChangesOnly (.setEnabled path enabled) path
        (fun node => { node with enabled := enabled }) ∧
      session.ChangesOnly (.setType path type) path (fun node =>
        if type.shape = node.shape then { node with type := type }
        else
          { node with
            type := type
            value := type.emptyValue
            children := []
            childDef := if type = .array then some ⟨.text, none⟩ else none }) := by
  refine ⟨Session.changesOnly_of_update (fun _ => rfl) unled rfl,
    Session.changesOnly_of_update (fun _ => rfl) unled rfl,
    Session.changesOnly_of_update ?_ unled rfl⟩
  intro node
  split <;> rfl

end

/-- A session of a name next to a list of two tags. -/
def taggedForm : Session :=
  (Session.start {} [.leaf { key := "name", type := .text }, .leaf { key := "tags", type := .array }]
      {} "form").run
    [.pushItem "tags", .pushItem "tags"]

/-- The second tag gets a value, also with its number spelled otherwise, and the list becomes a text. -/
theorem set_at_path_tags :
    "tags.+01".toList.head? ≠ some '.' ∧
      (taggedForm.perform (.setValue "tags.+01" (.str "b"))).1 = .ok none ∧
      (∃ node, taggedForm.node? "tags.+01" = some node ∧
        (taggedForm.perform (.setValue "tags.+01" (.str "b"))).2.node? "tags.+01" =
          some { node with value := .str "b" } ∧
        InstanceNode.Replaced node { node with value := .str "b" } taggedForm.nodes
          (taggedForm.perform (.setValue "tags.+01" (.str "b"))).2.nodes) ∧
      "tags".toList.head? ≠ some '.' ∧
      (taggedForm.perform (.setType "tags" .text)).1 = .ok none ∧
      ∃ node, taggedForm.node? "tags" = some node ∧ node.shape = .list ∧
        (taggedForm.perform (.setType "tags" .text)).2.node? "tags" =
          some { node with type := .text, value := .str "", children := [], childDef := none } := by
  have unledTag : "tags.+01".toList.head? ≠ some '.' := by decide
  have unledTags : "tags".toList.head? ≠ some '.' := by decide
  have valued : (taggedForm.perform (.setValue "tags.+01" (.str "b"))).1 = .ok none := rfl
  have retyped : (taggedForm.perform (.setType "tags" .text)).1 = .ok none := rfl
  have tag := (set_at_path taggedForm unledTag (.str "b") true .text).1 none valued
  obtain ⟨node, before, after, -⟩ :=
    (set_at_path taggedForm unledTags .null true .text).2.2 none retyped
  have isList : node.shape = .list := by
    have same : taggedForm.node? "tags" = some taggedForm.nodes[1] := by decide +kernel
    rw [same, Option.some.injEq] at before
    rw [← before]
    decide
  refine ⟨unledTag, valued, tag, unledTags, retyped, node, before, isList, ?_⟩
  simpa [isList, FieldType.shape, FieldType.emptyValue] using after

/-- A list that becomes a text does not only get another type. A path that starts with a dot writes
the value of a field at the top, but nothing is read there. -/
theorem set_reaches_further :
    (taggedForm.perform (.setType "tags" .text)).1 = .ok none ∧
      (taggedForm.node? "tags").map (fun node => { node with type := .text }) ≠
        (taggedForm.perform (.setType "tags" .text)).2.node? "tags" ∧
      (taggedForm.perform (.setValue ".name" (.str "Ada"))).1 = .ok none ∧
      (taggedForm.perform (.setValue ".name" (.str "Ada"))).2.nodes[0]?.map (·.value) =
        some (.str "Ada") ∧
      (taggedForm.perform (.setValue ".name" (.str "Ada"))).2.node? ".name" = none :=
  ⟨rfl, by decide +kernel, rfl, by decide +kernel, by decide +kernel⟩

end Formwork
