/-
This file shows that edits with any arguments and storing keep fields well-formed.
-/

import Formwork.Proofs.Reconcile.WellFormed
import Formwork.Proofs.Session.Storable

namespace Formwork

namespace InstanceNode

/-- The fields of one level are well-formed, by distinct keys unless they are items of a list. -/
def LevelWellFormed (inList : Bool) (nodes : List InstanceNode) : Prop :=
  (inList = false → SiblingsDistinct nodes) ∧ ∀ node ∈ nodes, node.WellFormed

theorem levelWellFormed_top (nodes : List InstanceNode) :
    LevelWellFormed false nodes ↔ AllWellFormed nodes := by
  simp [LevelWellFormed, AllWellFormed]

/-- Another field under the key of one keeps a level well-formed. -/
theorem levelWellFormed_set {inList : Bool} {nodes : List InstanceNode}
    (level : LevelWellFormed inList nodes) (index : Fin nodes.length) {node : InstanceNode}
    (sameKey : node.key = (nodes.get index).key) (wellFormed : node.WellFormed) :
    LevelWellFormed inList (nodes.set index node) := by
  constructor
  · have sameKeys : (nodes.set index node).map (·.key) = nodes.map (·.key) := by
      rw [List.map_set, sameKey, ← List.map_set, List.get_eq_getElem, List.set_getElem_self]
    rw [SiblingsDistinct, sameKeys]
    exact level.1
  · intro other member
    rcases List.mem_or_eq_of_mem_set member with before | isNew
    · exact level.2 other before
    · exact isNew ▸ wellFormed

/-- The fields inside an object have distinct keys, the items of a list need not. -/
theorem WellFormed.levelInside {node : InstanceNode} (wellFormed : node.WellFormed)
    (notScalar : node.shape ≠ .scalar) :
    LevelWellFormed (node.shape == .list) node.children := by
  refine ⟨fun notList => wellFormed.holds.insideDistinct ?_, wellFormed.inside⟩
  cases shape : node.shape with
  | object => rfl
  | list => simp [shape] at notList
  | scalar => exact absurd shape notScalar

theorem WellFormed.withLevel {node : InstanceNode} (wellFormed : node.WellFormed)
    (notScalar : node.shape ≠ .scalar) {children : List InstanceNode}
    (level : LevelWellFormed (node.shape == .list) children) :
    { node with children := children }.WellFormed := by
  refine wellFormed.withChildren notScalar (fun isObject => level.1 ?_) level.2
  rw [isObject]
  rfl

theorem levelWellFormed_nested : Path.LevelProperty.Nested LevelWellFormed where
  inside index level notScalar := (level.2 _ (List.getElem_mem index.isLt)).levelInside notScalar
  around index level notScalar childrenLevel :=
    levelWellFormed_set level index rfl
      ((level.2 _ (List.getElem_mem index.isLt)).withLevel notScalar childrenLevel)

/-- A change of one field that keeps its key and keeps it well-formed does so with all fields. -/
theorem allWellFormed_update {change : Path.FieldChange}
    (keepsKey : ∀ {node changed : InstanceNode}, change node = (.ok (), changed) →
      changed.key = node.key)
    (keeps : ∀ {node changed : InstanceNode}, node.WellFormed → change node = (.ok (), changed) →
      changed.WellFormed)
    {path : String} {nodes after : List InstanceNode} (wellFormed : AllWellFormed nodes)
    (updated : Path.update path change nodes = (.ok (), after)) : AllWellFormed after := by
  rw [← levelWellFormed_top] at wellFormed ⊢
  refine Path.keeps_update levelWellFormed_nested ?_ wellFormed updated
  intro _ level index node levelWellFormed changed
  exact levelWellFormed_set levelWellFormed index (keepsKey changed)
    (keeps (levelWellFormed.2 _ (List.getElem_mem index.isLt)) changed)

/-- The same for a change that no field refuses. -/
theorem allWellFormed_change (change : InstanceNode → InstanceNode)
    (sameKey : ∀ node, (change node).key = node.key)
    (keeps : ∀ {node : InstanceNode}, node.WellFormed → (change node).WellFormed)
    {path : String} {nodes after : List InstanceNode} (wellFormed : AllWellFormed nodes)
    (updated : Path.update path (fun node => (.ok (), change node)) nodes = (.ok (), after)) :
    AllWellFormed after := by
  refine allWellFormed_update ?_ ?_ wellFormed updated
  · intro node changed isChanged
    cases isChanged
    exact sameKey node
  · intro node changed nodeWellFormed isChanged
    cases isChanged
    exact keeps nodeWellFormed

theorem keysDistinct_of_newChildDef (type : FieldType) :
    ∀ childDef ∈ newChildDef type, childDef.KeysDistinct := by
  intro childDef defines
  rw [newChildDef] at defines
  split at defines
  · exact Option.some.inj defines ▸ ChildDef.keysDistinct_scalars .text
  · cases defines

/-- A type of another shape leaves nothing inside a field. -/
theorem wellFormed_withType {node : InstanceNode} (wellFormed : node.WellFormed)
    (type : FieldType) : (node.withType type).WellFormed := by
  rw [withType]
  split
  · rename_i sameShape
    exact wellFormed.congr sameShape rfl rfl
  · exact wellFormed_of_noneInside rfl (keysDistinct_of_newChildDef type)

theorem wellFormed_added (key : String) (type : FieldType) : (added key type).WellFormed :=
  wellFormed_of_noneInside rfl (keysDistinct_of_newChildDef type)

theorem wellFormed_nextItem {node : InstanceNode} (wellFormed : node.WellFormed) :
    node.nextItem.WellFormed := by
  rw [nextItem]
  split
  · rename_i childDef defined
    exact ChildDef.wellFormed_newItem (wellFormed.holds.itemsDistinct childDef defined)
  · exact wellFormed_fresh "" .text

theorem key_of_withItem {path : String} {node changed : InstanceNode}
    (pushed : node.withItem path = (.ok (), changed)) : changed.key = node.key := by
  rw [(eq_of_withItem pushed).2]

theorem wellFormed_of_withItem {path : String} {node changed : InstanceNode}
    (wellFormed : node.WellFormed) (pushed : node.withItem path = (.ok (), changed)) :
    changed.WellFormed := by
  obtain ⟨isList, rfl⟩ := eq_of_withItem pushed
  refine wellFormed.withChildren (by simp [isList]) (by simp [isList]) ?_
  rw [List.forall_mem_append, List.forall_mem_singleton]
  exact ⟨wellFormed.inside, wellFormed_nextItem wellFormed⟩

theorem key_withType (node : InstanceNode) (type : FieldType) :
    (node.withType type).key = node.key := by
  rw [withType]
  split <;> rfl

end InstanceNode

theorem allWellFormed_applyText [PatternEngine] {options : CompileOptions} {text : String}
    {existing after : List InstanceNode} (wellFormed : InstanceNode.AllWellFormed existing)
    (applied : applyText options text existing = .ok after) : InstanceNode.AllWellFormed after := by
  obtain ⟨members, read, rfl⟩ := eq_of_applyText applied
  have distinct := Json.namesDistinct_of_ofText? read
  exact ⟨InstanceNode.siblingsDistinct_hydrateMembers options.wildcard existing distinct.1,
    InstanceNode.wellFormed_hydrateMembers options.wildcard wellFormed.2 members distinct.2⟩

/-- Every edit keeps fields well-formed, whatever its arguments are. -/
theorem Edit.allWellFormed_of_apply [PatternEngine] {options : CompileOptions}
    {schema : List SchemaNode}
    (distinct : SchemaNode.AllKeysDistinct schema) {nodes after : List InstanceNode}
    (wellFormed : InstanceNode.AllWellFormed nodes) {edit : Edit} {removed : Option InstanceNode}
    (applied : edit.apply options schema nodes = (.ok removed, after)) :
    InstanceNode.AllWellFormed after := by
  cases edit with
  | setValue path value =>
      exact InstanceNode.allWellFormed_change (fun node => { node with value := value })
        (fun _ => rfl) (·.congr rfl rfl rfl) wellFormed (only_eq_ok_iff.mp applied).1
  | setEnabled path enabled =>
      exact InstanceNode.allWellFormed_change (fun node => { node with enabled := enabled })
        (fun _ => rfl) (·.congr rfl rfl rfl) wellFormed (only_eq_ok_iff.mp applied).1
  | setType path type =>
      exact InstanceNode.allWellFormed_change (InstanceNode.withType type)
        (InstanceNode.key_withType · type) (InstanceNode.wellFormed_withType · type) wellFormed
        (only_eq_ok_iff.mp applied).1
  | addField parent key type =>
      rw [← InstanceNode.levelWellFormed_top] at wellFormed ⊢
      refine Path.keeps_add InstanceNode.levelWellFormed_nested ?_ wellFormed
        (only_eq_ok_iff.mp applied).1
      intro level levelWellFormed new
      constructor
      · intro _
        rw [InstanceNode.SiblingsDistinct, List.map_append, List.nodup_append]
        refine ⟨levelWellFormed.1 rfl, List.nodup_cons.mpr ⟨List.not_mem_nil, List.nodup_nil⟩, ?_⟩
        intro other member added isAdded same
        obtain ⟨node, nodeMember, rfl⟩ := List.mem_map.mp member
        rw [List.any_eq_false] at new
        exact new node nodeMember (by simpa [same] using isAdded)
      · rw [List.forall_mem_append, List.forall_mem_singleton]
        exact ⟨levelWellFormed.2, InstanceNode.wellFormed_added key type⟩
  | pushItem path =>
      exact InstanceNode.allWellFormed_update InstanceNode.key_of_withItem
        InstanceNode.wellFormed_of_withItem wellFormed (only_eq_ok_iff.mp applied).1
  | remove path =>
      obtain ⟨node, isRemoved, -⟩ := Session.answering_eq_ok_iff.mp applied
      rw [← InstanceNode.levelWellFormed_top] at wellFormed ⊢
      refine Path.keeps_remove InstanceNode.levelWellFormed_nested ?_ wellFormed isRemoved
      intro inList level index levelWellFormed
      constructor
      · intro notInList
        exact (levelWellFormed.1 notInList).sublist ((level.eraseIdx_sublist index).map _)
      · exact fun other member => levelWellFormed.2 other (List.mem_of_mem_eraseIdx member)
  | applyText text => exact allWellFormed_applyText wellFormed (applyText_of_apply applied)
  | reset =>
      cases applied
      exact InstanceNode.allWellFormed_defaults distinct

end Formwork
