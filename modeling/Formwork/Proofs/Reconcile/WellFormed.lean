/-
This file shows that reconciling fields and rebuilding them from a JSON body keep them well-formed.
-/

import Formwork.Proofs.Instance.Reapplied

namespace Formwork

namespace InstanceNode

theorem wellFormed_itemFields {childDef : Option ChildDef}
    (distinct : ∀ items ∈ childDef, items.KeysDistinct) :
    ∀ field ∈ itemFields childDef, field.WellFormed := by
  cases childDef with
  | none => exact List.forall_mem_nil _
  | some items =>
      rw [itemFields, Option.filter_some]
      split
      · exact (ChildDef.wellFormed_newItem (distinct items rfl)).inside
      · exact List.forall_mem_nil _

section

variable [PatternEngine] (wildcard : String)

theorem allWellFormed_reconcileFields_of {schema : List SchemaNode} {nodes : List InstanceNode}
    (distinct : SchemaNode.AllKeysDistinct schema) (siblings : SiblingsDistinct nodes)
    (each : ∀ node ∈ nodes, ∀ counterpart : Option SchemaNode,
      (∀ schema ∈ counterpart, schema.KeysDistinct) →
        (reconcileNode wildcard counterpart node).WellFormed) :
    AllWellFormed (reconcileFields wildcard schema nodes) := by
  by_cases empty : nodes = []
  · rw [empty, reconcileFields_nil]
    exact allWellFormed_defaults distinct
  · constructor
    · rwa [SiblingsDistinct, keys_reconcileFields wildcard schema empty]
    · rw [reconcileFields_eq_map wildcard schema empty, List.forall_mem_map]
      exact fun node member =>
        each node member _ (SchemaNode.keysDistinct_of_counterpart? distinct)

theorem wellFormed_reconcileNode {node : InstanceNode} (wellFormed : node.WellFormed)
    {counterpart : Option SchemaNode} (distinct : ∀ schema ∈ counterpart, schema.KeysDistinct) :
    (reconcileNode wildcard counterpart node).WellFormed := by
  induction node using InstanceNode.induction generalizing counterpart with
  | inside node inductionHypothesis =>
      rcases agrees_or_stale counterpart node with agrees | ⟨schema, rfl, stale⟩
      · have insideKept : node.shape = .object →
            AllWellFormed (keptInside wildcard counterpart node) := by
          intro isObject
          rw [keptInside, isObject]
          exact allWellFormed_reconcileFields_of wildcard
            (SchemaNode.allKeysDistinct_counterpartChildren distinct)
            (wellFormed.holds.insideDistinct isObject)
            fun child member _ => inductionHypothesis child member (wellFormed.inside child member)
        rw [reconcileNode_of_agrees wildcard agrees, wellFormed_iff, children_kept]
        refine ⟨⟨fun isObject => (insideKept isObject).1, ?_, ?_⟩, ?_⟩
        · rw [shape_kept, children_kept, keptInside]
          intro isScalar
          rw [isScalar]
        · intro childDef defines
          rw [kept, Option.mem_def, Option.orElse_eq_orElse, Option.orElse_eq_or,
            Option.or_eq_some_iff] at defines
          rcases defines with own | ⟨_, ofCounterpart⟩
          · exact wellFormed.holds.itemsDistinct childDef own
          · obtain ⟨schema, isCounterpart, ofSchema⟩ := Option.bind_eq_some_iff.mp ofCounterpart
            exact ChildDef.keysDistinct_of_ofNode? (distinct schema isCounterpart) childDef ofSchema
        · cases shape : node.shape with
          | object => exact (insideKept shape).2
          | list =>
              rw [keptInside, shape]
              exact wellFormed.inside
          | scalar =>
              rw [keptInside, shape]
              exact List.forall_mem_nil _
      · rw [reconcileNode_of_stale wildcard stale]
        exact (wellFormed_ofSchema (distinct schema rfl)).congr rfl rfl rfl

theorem allWellFormed_reconcileFields {schema : List SchemaNode} {nodes : List InstanceNode}
    (distinct : SchemaNode.AllKeysDistinct schema) (wellFormed : AllWellFormed nodes) :
    AllWellFormed (reconcileFields wildcard schema nodes) :=
  allWellFormed_reconcileFields_of wildcard distinct wellFormed.1
    fun node member _ => wellFormed_reconcileNode wildcard (wellFormed.2 node member)

mutual

/-- The fields of a JSON value are well-formed if the fields are that were there before. -/
theorem wellFormed_hydrateField (key : String) {existing : Option InstanceNode}
    (wellFormed : ∀ node ∈ existing, node.WellFormed) :
    (value : Json) → value.NamesDistinct → (hydrateField wildcard key existing value).WellFormed
  | .null, _ => wellFormed_of_noneInside rfl nofun
  | .obj members, distinct => by
      have before : ∀ node ∈ (existing.map (·.children)).getD [], node.WellFormed := by
        cases existing with
        | none => exact nofun
        | some node => exact (wellFormed node rfl).inside
      rw [hydrateField, wellFormed_iff]
      exact ⟨⟨fun _ => siblingsDistinct_hydrateMembers wildcard _ distinct.1, nofun, nofun⟩,
        wellFormed_hydrateMembers before members distinct.2⟩
  | .arr items, distinct => by
      have itemsDistinct : ∀ childDef ∈ existing.bind (·.childDef), childDef.KeysDistinct := by
        intro childDef defines
        obtain ⟨node, isExisting, defined⟩ := Option.bind_eq_some_iff.mp defines
        exact (wellFormed node isExisting).holds.itemsDistinct childDef defined
      rw [hydrateField, wellFormed_iff]
      exact ⟨⟨nofun, nofun, itemsDistinct⟩, wellFormed_hydrateItems itemsDistinct items distinct⟩
  | .bool _, _ => wellFormed_of_noneInside rfl nofun
  | .num _, _ => wellFormed_of_noneInside rfl nofun
  | .str _, _ => wellFormed_of_noneInside rfl nofun

theorem wellFormed_hydrateItem {childDef : Option ChildDef}
    (itemsDistinct : ∀ items ∈ childDef, items.KeysDistinct) :
    (value : Json) → value.NamesDistinct → (hydrateItem wildcard childDef value).WellFormed
  | .null, _ => wellFormed_fresh "" .text
  | .obj members, distinct => by
      rw [hydrateItem, wellFormed_iff]
      exact ⟨⟨fun _ => siblingsDistinct_hydrateMembers wildcard _ distinct.1, nofun, nofun⟩,
        wellFormed_hydrateMembers (wellFormed_itemFields itemsDistinct) members distinct.2⟩
  | .arr items, distinct => by
      have noItems : ∀ items ∈ (none : Option ChildDef), items.KeysDistinct := nofun
      rw [hydrateItem, wellFormed_iff]
      exact ⟨⟨nofun, nofun, noItems⟩, wellFormed_hydrateItems noItems items distinct⟩
  | .bool _, _ => wellFormed_of_noneInside rfl nofun
  | .num _, _ => wellFormed_of_noneInside rfl nofun
  | .str _, _ => wellFormed_of_noneInside rfl nofun

theorem wellFormed_hydrateMembers {existing : List InstanceNode}
    (wellFormed : ∀ node ∈ existing, node.WellFormed) :
    (members : List (String × Json)) → Json.MembersDistinct members →
      ∀ field ∈ hydrateMembers wildcard existing members, field.WellFormed
  | [], _ => nofun
  | (key, value) :: rest, distinct => by
      rw [hydrateMembers, List.forall_mem_cons]
      exact ⟨wellFormed_hydrateField key
          (fun node found => wellFormed node (mem_of_matching? found)) value distinct.1,
        wellFormed_hydrateMembers wellFormed rest distinct.2⟩

theorem wellFormed_hydrateItems {childDef : Option ChildDef}
    (itemsDistinct : ∀ items ∈ childDef, items.KeysDistinct) :
    (items : List Json) → Json.ItemsDistinct items →
      ∀ field ∈ hydrateItems wildcard childDef items, field.WellFormed
  | [], _ => nofun
  | item :: rest, distinct => by
      rw [hydrateItems, List.forall_mem_cons]
      exact ⟨wellFormed_hydrateItem itemsDistinct item distinct.1,
        wellFormed_hydrateItems itemsDistinct rest distinct.2⟩

end

end

end InstanceNode

end Formwork
