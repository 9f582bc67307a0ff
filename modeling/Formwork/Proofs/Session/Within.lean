/-
This file shows that sessions make nothing up: fields that are made of allowed keys, types and values
stay so under every edit that brings no others along.
-/

import Formwork.Proofs.Instance.Within
import Formwork.Proofs.Session.Steps

namespace Formwork

variable {allowed : Allowance}

namespace InstanceNode

theorem within_withValue {node : InstanceNode} (within : node.Within allowed) {value : Json}
    (valueAllowed : allowed.value value) : { node with value := value }.Within allowed := by
  obtain ⟨keyAllowed, typeAllowed, -, itemsAllowed⟩ := within.holds
  rw [within_iff]
  exact ⟨⟨keyAllowed, typeAllowed, valueAllowed, itemsAllowed⟩, within.inside⟩

theorem within_withEnabled {node : InstanceNode} (within : node.Within allowed) (enabled : Bool) :
    { node with enabled := enabled }.Within allowed := by
  obtain ⟨keyAllowed, typeAllowed, valueAllowed, itemsAllowed⟩ := within.holds
  rw [within_iff]
  exact ⟨⟨keyAllowed, typeAllowed, valueAllowed, itemsAllowed⟩, within.inside⟩

theorem allWithin_set {nodes : List InstanceNode} (within : AllWithin allowed nodes) (index : Nat)
    {node : InstanceNode} (nodeWithin : node.Within allowed) :
    AllWithin allowed (nodes.set index node) := by
  intro other member
  rcases List.mem_or_eq_of_mem_set member with before | isNew
  · exact within other before
  · exact isNew ▸ nodeWithin

theorem allWithin_nested : Path.LevelProperty.Nested fun _ nodes => AllWithin allowed nodes where
  inside index within _ := (within _ (List.getElem_mem index.isLt)).inside
  around index within _ childrenWithin :=
    allWithin_set within index
      ((within _ (List.getElem_mem index.isLt)).withChildren childrenWithin)

/-- A change of one field that makes nothing up makes nothing up in all fields. -/
theorem allWithin_update {change : Path.FieldChange}
    (keeps : ∀ {node changed : InstanceNode}, node.Within allowed → change node = (.ok (), changed) →
      changed.Within allowed)
    {path : String} {nodes after : List InstanceNode} (within : AllWithin allowed nodes)
    (updated : Path.update path change nodes = (.ok (), after)) : AllWithin allowed after := by
  refine Path.keeps_update allWithin_nested ?_ within updated
  intro _ level index node levelWithin changed
  exact allWithin_set levelWithin index
    (keeps (levelWithin _ (List.getElem_mem index.isLt)) changed)

/-- The same for a change that no field refuses. -/
theorem allWithin_change (change : InstanceNode → InstanceNode)
    (keeps : ∀ {node : InstanceNode}, node.Within allowed → (change node).Within allowed)
    {path : String} {nodes after : List InstanceNode} (within : AllWithin allowed nodes)
    (updated : Path.update path (fun node => (.ok (), change node)) nodes = (.ok (), after)) :
    AllWithin allowed after := by
  refine allWithin_update ?_ within updated
  intro node changed nodeWithin isChanged
  cases isChanged
  exact keeps nodeWithin

/-- Only a list has one more item. -/
theorem eq_of_withItem {path : String} {node changed : InstanceNode}
    (pushed : node.withItem path = (.ok (), changed)) :
    node.shape = .list ∧ changed = { node with children := node.children ++ [node.nextItem] } := by
  rw [withItem] at pushed
  split at pushed
  · rename_i isList
    cases pushed
    refine ⟨?_, rfl⟩
    rw [shape, isList]
    rfl
  · cases pushed

section

variable (basic : allowed.Basic)
include basic

theorem within_newChildDef (type : FieldType) :
    ∀ childDef ∈ newChildDef type, childDef.Within allowed := by
  intro childDef defines
  rw [newChildDef] at defines
  split at defines
  · exact Option.some.inj defines ▸ ChildDef.within_scalars basic.text
  · cases defines

theorem within_withType {node : InstanceNode} (within : node.Within allowed) {type : FieldType}
    (typeAllowed : allowed.type type) : (node.withType type).Within allowed := by
  obtain ⟨keyAllowed, -, valueAllowed, itemsAllowed⟩ := within.holds
  rw [within_iff, withType]
  split
  · exact ⟨⟨keyAllowed, typeAllowed, valueAllowed, itemsAllowed⟩, within.inside⟩
  · exact ⟨⟨keyAllowed, typeAllowed, basic.emptyValue type, within_newChildDef basic type⟩,
      allWithin_nil⟩

theorem within_added {key : String} (keyAllowed : allowed.key key) {type : FieldType}
    (typeAllowed : allowed.type type) : (added key type).Within allowed := by
  rw [within_iff]
  exact ⟨⟨keyAllowed, typeAllowed, basic.emptyValue type, within_newChildDef basic type⟩,
    allWithin_nil⟩

theorem within_nextItem {node : InstanceNode} (within : node.Within allowed) :
    node.nextItem.Within allowed := by
  rw [nextItem]
  split
  · rename_i childDef defined
    exact ChildDef.within_newItem basic (within.holds.itemsAllowed childDef defined)
  · exact within_fresh basic basic.noKey basic.text

theorem within_of_withItem {path : String} {node changed : InstanceNode}
    (within : node.Within allowed) (pushed : node.withItem path = (.ok (), changed)) :
    changed.Within allowed := by
  obtain ⟨_, rfl⟩ := eq_of_withItem pushed
  apply within.withChildren
  rw [AllWithin, List.forall_mem_append, List.forall_mem_singleton]
  exact ⟨within.inside, within_nextItem basic within⟩

end

end InstanceNode

/-- A text that is not refused is an object, whose members become the fields. -/
theorem eq_of_applyText [PatternEngine] {options : CompileOptions} {text : String}
    {existing after : List InstanceNode} (applied : applyText options text existing = .ok after) :
    ∃ members, Json.ofText? text = some (.obj members) ∧
      after = InstanceNode.hydrateMembers options.wildcard existing members := by
  rw [applyText] at applied
  split at applied
  · cases applied
  · split at applied
    · cases applied
    · rename_i members read
      split at applied
      · cases applied
      · cases applied
        exact ⟨members, read, rfl⟩
    · cases applied

namespace Edit

/-- The keys, types and values that an edit brings along are allowed. -/
def Within (allowed : Allowance) : Edit → Prop
  | setValue _ value => allowed.value value
  | setType _ type => allowed.type type
  | addField _ key type => allowed.key key ∧ allowed.type type
  | applyText text => ∀ value, Json.ofText? text = some value → value.EachName allowed.key
  | _ => True

/-- Fields are made of what was there before, of what the edit brings along and of what the schema
says. -/
theorem allWithin_of_apply [PatternEngine] (basic : allowed.Basic) {options : CompileOptions}
    {schema : List SchemaNode} (schemaWithin : ∀ node ∈ schema, node.Within allowed)
    {nodes after : List InstanceNode} (within : InstanceNode.AllWithin allowed nodes) {edit : Edit}
    (editWithin : edit.Within allowed) {removed : Option InstanceNode}
    (applied : edit.apply options schema nodes = (.ok removed, after)) :
    InstanceNode.AllWithin allowed after := by
  cases edit with
  | setValue path value =>
      exact InstanceNode.allWithin_change (fun node => { node with value := value })
        (InstanceNode.within_withValue · editWithin) within (only_eq_ok_iff.mp applied).1
  | setEnabled path enabled =>
      exact InstanceNode.allWithin_change (fun node => { node with enabled := enabled })
        (InstanceNode.within_withEnabled · enabled) within (only_eq_ok_iff.mp applied).1
  | setType path type =>
      exact InstanceNode.allWithin_change (InstanceNode.withType type)
        (InstanceNode.within_withType basic · editWithin) within (only_eq_ok_iff.mp applied).1
  | addField parent key type =>
      refine Path.keeps_add InstanceNode.allWithin_nested ?_ within (only_eq_ok_iff.mp applied).1
      intro level levelWithin _
      rw [InstanceNode.AllWithin, List.forall_mem_append, List.forall_mem_singleton]
      exact ⟨levelWithin, InstanceNode.within_added basic editWithin.1 editWithin.2⟩
  | pushItem path =>
      exact InstanceNode.allWithin_update (InstanceNode.within_of_withItem basic) within
        (only_eq_ok_iff.mp applied).1
  | remove path =>
      obtain ⟨node, isRemoved, -⟩ := Session.answering_eq_ok_iff.mp applied
      refine Path.keeps_remove InstanceNode.allWithin_nested ?_ within isRemoved
      exact fun _ levelWithin other member => levelWithin other (List.mem_of_mem_eraseIdx member)
  | applyText text =>
      obtain ⟨members, read, rfl⟩ := eq_of_applyText (applyText_of_apply applied)
      exact InstanceNode.within_hydrateMembers options.wildcard basic within members
        (editWithin _ read)
  | reset =>
      cases applied
      exact InstanceNode.within_defaults basic schemaWithin

end Edit

end Formwork
