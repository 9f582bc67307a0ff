/-
This file defines well-formed fields: siblings have distinct keys except in lists, scalars have
nothing inside them, and the items that lists get next are well-formed as well.
-/

import Formwork.Proofs.Codec.Instance
import Formwork.Proofs.Reconcile.Kept

namespace Formwork

namespace SchemaNode

theorem key_readBack (node : SchemaNode) : (readBack node).key = node.key := by
  rw [readBack_eq]
  rfl

theorem children_readBack (node : SchemaNode) :
    (readBack node).children = node.children.map readBack := by
  rw [readBack_eq]
  obtain ⟨info, _ | nodes⟩ := node <;> rfl

theorem siblingsDistinct_map_readBack {nodes : List SchemaNode} (distinct : SiblingsDistinct nodes) :
    SiblingsDistinct (nodes.map readBack) := by
  have sameKeys : (nodes.map readBack).map (·.key) = nodes.map (·.key) := by
    rw [List.map_map]
    exact List.map_congr_left fun node _ => key_readBack node
  rwa [SiblingsDistinct, sameKeys]

theorem keysDistinct_readBack {node : SchemaNode} (distinct : node.KeysDistinct) :
    (readBack node).KeysDistinct := by
  induction node using SchemaNode.induction with
  | inside node inductionHypothesis =>
      rw [keysDistinct_iff] at distinct
      rw [keysDistinct_iff, children_readBack]
      refine ⟨siblingsDistinct_map_readBack distinct.1, ?_⟩
      rw [List.forall_mem_map]
      exact fun child member => inductionHypothesis child member (distinct.2 child member)

/-- Writing and reading a schema leaves its sibling keys distinct at every level. -/
theorem allKeysDistinct_map_readBack {nodes : List SchemaNode} (distinct : AllKeysDistinct nodes) :
    AllKeysDistinct (nodes.map readBack) := by
  refine ⟨siblingsDistinct_map_readBack distinct.1, ?_⟩
  rw [List.forall_mem_map]
  exact fun node member => keysDistinct_readBack (distinct.2 node member)

end SchemaNode

namespace ChildDef

/-- Sibling keys are distinct at every level of the schema of a new item. -/
def KeysDistinct (childDef : ChildDef) : Prop :=
  SchemaNode.AllKeysDistinct (childDef.schema.getD [])

instance : DecidablePred KeysDistinct :=
  fun childDef => inferInstanceAs (Decidable (SchemaNode.AllKeysDistinct (childDef.schema.getD [])))

theorem keysDistinct_scalars (type : FieldType) : (⟨type, none⟩ : ChildDef).KeysDistinct :=
  ⟨List.nodup_nil, nofun⟩

theorem keysDistinct_of_ofNode? {node : SchemaNode} (distinct : node.KeysDistinct) :
    ∀ childDef ∈ ofNode? node, childDef.KeysDistinct := by
  intro childDef defines
  rw [ofNode?] at defines
  split at defines
  · obtain rfl := Option.some.inj defines
    split
    · exact (SchemaNode.keysDistinct_iff node).mp distinct
    · exact keysDistinct_scalars _
  · cases defines

theorem keysDistinct_readBack {childDef : ChildDef} (distinct : childDef.KeysDistinct) :
    childDef.readBack.KeysDistinct := by
  obtain ⟨type, _ | nodes⟩ := childDef
  · exact distinct
  · exact SchemaNode.allKeysDistinct_map_readBack distinct

end ChildDef

namespace InstanceNode

/-- Siblings have distinct keys. -/
def SiblingsDistinct (nodes : List InstanceNode) : Prop :=
  (nodes.map (·.key)).Nodup

instance (nodes : List InstanceNode) : Decidable (SiblingsDistinct nodes) :=
  inferInstanceAs (Decidable (nodes.map (·.key)).Nodup)

theorem siblingsDistinct_nil : SiblingsDistinct [] :=
  List.nodup_nil

/-- Keys name the fields of an object, a scalar has no fields, and the schema of new items has
distinct keys. -/
structure HoldsWellFormed (node : InstanceNode) : Prop where
  insideDistinct : node.shape = .object → SiblingsDistinct node.children
  noneInside : node.shape = .scalar → node.children = []
  itemsDistinct : ∀ childDef ∈ node.childDef, childDef.KeysDistinct

instance : DecidablePred HoldsWellFormed :=
  fun node => decidable_of_iff
    ((node.shape = .object → SiblingsDistinct node.children) ∧
      (node.shape = .scalar → node.children = []) ∧
      ∀ childDef ∈ node.childDef, childDef.KeysDistinct)
    ⟨fun ⟨insideDistinct, noneInside, itemsDistinct⟩ =>
        ⟨insideDistinct, noneInside, itemsDistinct⟩,
      fun holds => ⟨holds.insideDistinct, holds.noneInside, holds.itemsDistinct⟩⟩

/-- The field and all fields inside it are well-formed. -/
def WellFormed : InstanceNode → Prop :=
  Everywhere HoldsWellFormed

instance : DecidablePred WellFormed :=
  inferInstanceAs (DecidablePred (Everywhere _))

/-- Fields by distinct keys, each of them well-formed. -/
def AllWellFormed (nodes : List InstanceNode) : Prop :=
  SiblingsDistinct nodes ∧ ∀ node ∈ nodes, node.WellFormed

instance (nodes : List InstanceNode) : Decidable (AllWellFormed nodes) :=
  inferInstanceAs (Decidable (_ ∧ _))

theorem allWellFormed_nil : AllWellFormed [] :=
  ⟨siblingsDistinct_nil, nofun⟩

theorem wellFormed_iff (node : InstanceNode) :
    node.WellFormed ↔ node.HoldsWellFormed ∧ ∀ child ∈ node.children, child.WellFormed :=
  everywhere_iff node

theorem WellFormed.holds {node : InstanceNode} (wellFormed : node.WellFormed) :
    node.HoldsWellFormed :=
  ((wellFormed_iff node).mp wellFormed).1

theorem WellFormed.inside {node : InstanceNode} (wellFormed : node.WellFormed) :
    ∀ child ∈ node.children, child.WellFormed :=
  ((wellFormed_iff node).mp wellFormed).2

/-- A field with nothing inside it is well-formed if its items are. -/
theorem wellFormed_of_noneInside {node : InstanceNode} (noneInside : node.children = [])
    (itemsDistinct : ∀ childDef ∈ node.childDef, childDef.KeysDistinct) : node.WellFormed := by
  rw [wellFormed_iff, noneInside]
  refine ⟨⟨fun _ => ?_, fun _ => noneInside, itemsDistinct⟩, nofun⟩
  rw [noneInside]
  exact siblingsDistinct_nil

/-- Key, value and state of a field play no part in whether it is well-formed. -/
theorem WellFormed.congr {node other : InstanceNode} (wellFormed : node.WellFormed)
    (sameShape : other.shape = node.shape) (sameInside : other.children = node.children)
    (sameItems : other.childDef = node.childDef) : other.WellFormed := by
  rw [wellFormed_iff, sameInside]
  refine ⟨⟨?_, ?_, ?_⟩, wellFormed.inside⟩
  · rw [sameShape, sameInside]
    exact wellFormed.holds.insideDistinct
  · rw [sameShape, sameInside]
    exact wellFormed.holds.noneInside
  · rw [sameItems]
    exact wellFormed.holds.itemsDistinct

/-- Other fields inside an object or a list. -/
theorem WellFormed.withChildren {node : InstanceNode} (wellFormed : node.WellFormed)
    (notScalar : node.shape ≠ .scalar) {children : List InstanceNode}
    (distinct : node.shape = .object → SiblingsDistinct children)
    (inside : ∀ child ∈ children, child.WellFormed) :
    { node with children := children }.WellFormed := by
  rw [wellFormed_iff]
  exact ⟨⟨distinct, fun isScalar => absurd isScalar notScalar, wellFormed.holds.itemsDistinct⟩,
    inside⟩

theorem wellFormed_fresh (key : String) (type : FieldType) : (fresh key type).WellFormed :=
  wellFormed_of_noneInside rfl nofun

theorem siblingsDistinct_defaults {schema : List SchemaNode}
    (distinct : SchemaNode.SiblingsDistinct schema) : SiblingsDistinct (defaults schema) := by
  have sameKeys : (defaults schema).map (·.key) = schema.map (·.key) := by
    rw [defaults_eq_map, List.map_map]
    exact List.map_congr_left fun node _ => key_ofSchema node
  rwa [SiblingsDistinct, sameKeys]

/-- The default field of a schema node is well-formed if the keys inside the node are distinct. -/
theorem wellFormed_ofSchema {node : SchemaNode} (distinct : node.KeysDistinct) :
    (ofSchema node).WellFormed := by
  induction node using SchemaNode.induction with
  | inside node inductionHypothesis =>
      have distinctInside := (SchemaNode.keysDistinct_iff node).mp distinct
      rw [wellFormed_iff, children_ofSchema]
      constructor
      · constructor
        · rw [shape_ofSchema, children_ofSchema]
          intro isObject
          rw [if_pos isObject]
          exact siblingsDistinct_defaults distinctInside.1
        · rw [shape_ofSchema, children_ofSchema]
          intro isScalar
          rw [isScalar]
          rfl
        · rw [childDef_ofSchema]
          exact ChildDef.keysDistinct_of_ofNode? distinct
      · split
        · rw [defaults_eq_map, List.forall_mem_map]
          exact fun child member => inductionHypothesis child member (distinctInside.2 child member)
        · nofun

/-- The default fields of a schema with distinct keys are well-formed. -/
theorem allWellFormed_defaults {schema : List SchemaNode}
    (distinct : SchemaNode.AllKeysDistinct schema) : AllWellFormed (defaults schema) := by
  refine ⟨siblingsDistinct_defaults distinct.1, ?_⟩
  rw [defaults_eq_map, List.forall_mem_map]
  exact fun node member => wellFormed_ofSchema (distinct.2 node member)

end InstanceNode

theorem ChildDef.wellFormed_newItem {childDef : ChildDef} (distinct : childDef.KeysDistinct) :
    childDef.newItem.WellFormed := by
  rw [newItem]
  by_cases isObject : childDef.type = .object
  · simp only [isObject, if_true]
    have fields := InstanceNode.allWellFormed_defaults distinct
    refine (InstanceNode.wellFormed_fresh "" .object).withChildren nofun (fun _ => fields.1) fields.2
  · simp only [isObject, if_false]
    exact InstanceNode.wellFormed_of_noneInside rfl nofun

end Formwork
