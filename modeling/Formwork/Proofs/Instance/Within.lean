/-
This file shows what fields are made of: if only certain keys, types and values are allowed, and a
schema, stored fields and a JSON body keep to them, so do the fields that are made from these.
-/

import Formwork.Proofs.Instance.Hydrated
import Formwork.Proofs.Json.EachName
import Formwork.Schema.Example

namespace Formwork

/-- The keys, types and values that are allowed in fields and schemas. -/
structure Allowance where
  key : String → Prop
  type : FieldType → Prop
  value : Json → Prop

/-- What every allowance has to allow: items without a key, the types of new items and of the fields
of a JSON body, and scalars. -/
structure Allowance.Basic (allowed : Allowance) : Prop where
  noKey : allowed.key ""
  ownType : ∀ type ∈ [FieldType.text, .number, .boolean, .object, .array], allowed.type type
  scalar : ∀ value : Json, SchemaNode.isNested value = false → allowed.value value

variable {allowed : Allowance}

/-- What a schema says about one field is allowed. -/
structure SchemaNode.HoldsWithin (allowed : Allowance) (node : SchemaNode) : Prop where
  keyAllowed : allowed.key node.key
  typeAllowed : allowed.type node.info.type
  itemsAllowed : ∀ type ∈ node.info.childType, allowed.type type

/-- What a schema says is allowed at every level. -/
def SchemaNode.Within (allowed : Allowance) : SchemaNode → Prop :=
  Everywhere (HoldsWithin allowed)

theorem SchemaNode.within_iff (node : SchemaNode) :
    node.Within allowed ↔
      node.HoldsWithin allowed ∧ ∀ child ∈ node.children, child.Within allowed :=
  everywhere_iff node

/-- The type of new items and what the schema says about the fields inside them is allowed. -/
def ChildDef.Within (allowed : Allowance) (childDef : ChildDef) : Prop :=
  allowed.type childDef.type ∧ ∀ node ∈ childDef.schema.getD [], node.Within allowed

namespace InstanceNode

/-- What a field itself is made of is allowed. -/
structure HoldsWithin (allowed : Allowance) (node : InstanceNode) : Prop where
  keyAllowed : allowed.key node.key
  typeAllowed : allowed.type node.type
  valueAllowed : allowed.value node.value
  itemsAllowed : ∀ childDef ∈ node.childDef, childDef.Within allowed

/-- What the field and all fields inside it are made of is allowed. -/
def Within (allowed : Allowance) : InstanceNode → Prop :=
  Everywhere (HoldsWithin allowed)

/-- All fields of a level keep to what is allowed. -/
def AllWithin (allowed : Allowance) (nodes : List InstanceNode) : Prop :=
  ∀ node ∈ nodes, node.Within allowed

theorem allWithin_nil : AllWithin allowed [] :=
  List.forall_mem_nil _

theorem within_iff (node : InstanceNode) :
    node.Within allowed ↔ node.HoldsWithin allowed ∧ AllWithin allowed node.children :=
  everywhere_iff node

theorem Within.holds {node : InstanceNode} (within : node.Within allowed) :
    node.HoldsWithin allowed :=
  ((within_iff node).mp within).1

theorem Within.inside {node : InstanceNode} (within : node.Within allowed) :
    AllWithin allowed node.children :=
  ((within_iff node).mp within).2

/-- A field without items or fields inside it. -/
theorem within_alone {node : InstanceNode} (keyAllowed : allowed.key node.key)
    (typeAllowed : allowed.type node.type) (valueAllowed : allowed.value node.value)
    (noItems : node.childDef = none) (noneInside : node.children = []) : node.Within allowed := by
  rw [within_iff, noneInside]
  refine ⟨⟨keyAllowed, typeAllowed, valueAllowed, fun childDef defines => ?_⟩, allWithin_nil⟩
  rw [noItems] at defines
  cases defines

/-- A field with other fields inside it, whatever the schema says about it. -/
theorem Within.withChildren {node : InstanceNode} (within : node.Within allowed)
    {children : List InstanceNode} (inside : AllWithin allowed children)
    {info : Option FieldInfo} : { node with children := children, info := info }.Within allowed := by
  obtain ⟨keyAllowed, typeAllowed, valueAllowed, itemsAllowed⟩ := within.holds
  rw [within_iff]
  exact ⟨⟨keyAllowed, typeAllowed, valueAllowed, itemsAllowed⟩, inside⟩

theorem allowed_type_existing {existing : Option InstanceNode}
    (within : ∀ node ∈ existing, node.Within allowed) :
    ∀ type ∈ existing.map (·.type), allowed.type type := by
  intro type isType
  obtain ⟨node, isExisting, rfl⟩ := Option.map_eq_some_iff.mp isType
  exact (within node isExisting).holds.typeAllowed

theorem allowed_type_items {childDef : Option ChildDef}
    (itemsWithin : ∀ items ∈ childDef, items.Within allowed) :
    ∀ type ∈ childDef.map (·.type), allowed.type type := by
  intro type isType
  obtain ⟨items, isDef, rfl⟩ := Option.map_eq_some_iff.mp isType
  exact (itemsWithin items isDef).1

end InstanceNode

/-- Items of an allowed type without fields inside them. -/
theorem ChildDef.within_scalars {type : FieldType} (typeAllowed : allowed.type type) :
    (⟨type, none⟩ : ChildDef).Within allowed :=
  ⟨typeAllowed, List.forall_mem_nil _⟩

section

variable (basic : allowed.Basic)
include basic

theorem Allowance.Basic.text : allowed.type .text :=
  basic.ownType .text (by decide)

theorem Allowance.Basic.emptyValue (type : FieldType) : allowed.value type.emptyValue :=
  basic.scalar _ (by cases type <;> rfl)

theorem ChildDef.within_of_ofNode? {node : SchemaNode} (within : node.Within allowed) :
    ∀ childDef ∈ ofNode? node, childDef.Within allowed := by
  obtain ⟨holds, inside⟩ := (SchemaNode.within_iff node).mp within
  intro childDef defines
  rw [ofNode?] at defines
  split at defines
  · obtain rfl := Option.some.inj defines
    split
    · exact ⟨basic.ownType .object (by decide), inside⟩
    · apply within_scalars
      cases itemType : node.info.childType with
      | none => exact basic.text
      | some type => exact holds.itemsAllowed type itemType
  · cases defines

namespace InstanceNode

theorem within_fresh {key : String} {type : FieldType} (keyAllowed : allowed.key key)
    (typeAllowed : allowed.type type) : (fresh key type).Within allowed :=
  within_alone keyAllowed typeAllowed (basic.emptyValue type) rfl rfl

/-- The default field of a schema node is made of what the node says. -/
theorem within_ofSchema {node : SchemaNode} (within : node.Within allowed) :
    (ofSchema node).Within allowed := by
  induction node using SchemaNode.induction with
  | inside node inductionHypothesis =>
      obtain ⟨holds, inside⟩ := (SchemaNode.within_iff node).mp within
      have itemsAllowed := ChildDef.within_of_ofNode? basic within
      rw [← childDef_ofSchema] at itemsAllowed
      have typeAllowed :
          allowed.type (if node.info.shape = .list then .array else node.info.type) := by
        split
        · exact basic.ownType .array (by decide)
        · exact holds.typeAllowed
      rw [within_iff, children_ofSchema]
      constructor
      · obtain ⟨info, _ | nodes⟩ := node
        · exact ⟨holds.keyAllowed, typeAllowed, basic.emptyValue _, itemsAllowed⟩
        · exact ⟨holds.keyAllowed, typeAllowed, basic.emptyValue _, itemsAllowed⟩
      · split
        · rw [defaults_eq_map, AllWithin, List.forall_mem_map]
          exact fun child member => inductionHypothesis child member (inside child member)
        · exact allWithin_nil

theorem within_defaults {schema : List SchemaNode} (within : ∀ node ∈ schema, node.Within allowed) :
    AllWithin allowed (defaults schema) := by
  rw [defaults_eq_map, AllWithin, List.forall_mem_map]
  exact fun node member => within_ofSchema basic (within node member)

end InstanceNode

theorem ChildDef.within_newItem {childDef : ChildDef} (within : childDef.Within allowed) :
    childDef.newItem.Within allowed := by
  refine (InstanceNode.within_fresh basic basic.noKey within.1).withChildren ?_
  split
  · exact InstanceNode.within_defaults basic within.2
  · exact InstanceNode.allWithin_nil

namespace InstanceNode

section

variable [PatternEngine]

theorem within_reconcileFields_of (wildcard : String) {schema : List SchemaNode}
    {nodes : List InstanceNode} (schemaWithin : ∀ node ∈ schema, node.Within allowed)
    (each : ∀ node ∈ nodes, ∀ counterpart : Option SchemaNode,
      (∀ schema ∈ counterpart, schema.Within allowed) →
        (reconcileNode wildcard counterpart node).Within allowed) :
    AllWithin allowed (reconcileFields wildcard schema nodes) := by
  by_cases empty : nodes = []
  · rw [empty, reconcileFields_nil]
    exact within_defaults basic schemaWithin
  · rw [reconcileFields_eq_map wildcard schema empty, AllWithin, List.forall_mem_map]
    intro node member
    exact each node member _ fun counterpart found =>
      schemaWithin counterpart (SchemaNode.mem_of_counterpart? found)

/-- A stored field keeps its own parts, or gets those of the schema. -/
theorem within_reconcileNode (wildcard : String) {node : InstanceNode}
    (within : node.Within allowed) {counterpart : Option SchemaNode}
    (schemaWithin : ∀ schema ∈ counterpart, schema.Within allowed) :
    (reconcileNode wildcard counterpart node).Within allowed := by
  induction node using InstanceNode.induction generalizing counterpart with
  | inside node inductionHypothesis =>
      obtain ⟨keyAllowed, typeAllowed, valueAllowed, itemsAllowed⟩ := within.holds
      rcases agrees_or_stale counterpart node with agrees | ⟨schema, rfl, stale⟩
      · rw [reconcileNode_of_agrees wildcard agrees, within_iff, children_kept, keptInside]
        refine ⟨⟨keyAllowed, typeAllowed, valueAllowed, ?_⟩, ?_⟩
        · intro childDef defines
          rw [kept, Option.mem_def, Option.orElse_eq_orElse, Option.orElse_eq_or,
            Option.or_eq_some_iff] at defines
          rcases defines with own | ⟨_, ofCounterpart⟩
          · exact itemsAllowed childDef own
          · obtain ⟨schema, isCounterpart, ofSchema⟩ := Option.bind_eq_some_iff.mp ofCounterpart
            exact ChildDef.within_of_ofNode? basic (schemaWithin schema isCounterpart) childDef
              ofSchema
        · cases node.shape with
          | object =>
              refine within_reconcileFields_of basic wildcard ?_ fun child member _ =>
                inductionHypothesis child member (within.inside child member)
              cases counterpart with
              | none => exact List.forall_mem_nil _
              | some schema => exact ((SchemaNode.within_iff schema).mp (schemaWithin schema rfl)).2
          | list => exact within.inside
          | scalar => exact allWithin_nil
      · rw [reconcileNode_of_stale wildcard stale]
        have default := within_ofSchema basic (schemaWithin schema rfl)
        obtain ⟨-, defaultType, defaultValue, defaultItems⟩ := default.holds
        rw [within_iff]
        exact ⟨⟨keyAllowed, defaultType, defaultValue, defaultItems⟩, default.inside⟩

theorem within_reconcileFields (wildcard : String) {schema : List SchemaNode}
    (schemaWithin : ∀ node ∈ schema, node.Within allowed) {nodes : List InstanceNode}
    (within : AllWithin allowed nodes) :
    AllWithin allowed (reconcileFields wildcard schema nodes) :=
  within_reconcileFields_of basic wildcard schemaWithin fun node member _ =>
    within_reconcileNode basic wildcard (within node member)

end

theorem within_itemFields {childDef : Option ChildDef}
    (itemsWithin : ∀ items ∈ childDef, items.Within allowed) :
    AllWithin allowed (itemFields childDef) := by
  cases childDef with
  | none => exact allWithin_nil
  | some items =>
      rw [itemFields, Option.filter_some]
      split
      · exact (ChildDef.within_newItem basic (itemsWithin items rfl)).inside
      · exact allWithin_nil

theorem allowed_scalarType {previous : Option FieldType}
    (previousAllowed : ∀ type ∈ previous, allowed.type type) (value : Json) :
    allowed.type (scalarType previous value) := by
  have kept : allowed.type ((previous.filter (·.shape == .scalar)).getD .text) := by
    cases isScalar : previous.filter (·.shape == .scalar) with
    | none => exact basic.text
    | some type => exact previousAllowed type (Option.eq_some_of_filter_eq_some isScalar)
  cases value with
  | num _ => exact basic.ownType .number (by decide)
  | bool _ => exact basic.ownType .boolean (by decide)
  | null => exact kept
  | str _ => exact kept
  | arr _ => exact kept
  | obj _ => exact kept

/-- A scalar of a JSON body, with one of the types that it can get. -/
theorem within_hydrated {node : InstanceNode} (keyAllowed : allowed.key node.key)
    {previous : Option FieldType} (previousAllowed : ∀ type ∈ previous, allowed.type type)
    (isScalar : SchemaNode.isNested node.value = false)
    (hasType : node.type = scalarType previous node.value) (noItems : node.childDef = none)
    (noneInside : node.children = []) : node.Within allowed := by
  have typeAllowed := allowed_scalarType basic previousAllowed node.value
  rw [← hasType] at typeAllowed
  exact within_alone keyAllowed typeAllowed (basic.scalar node.value isScalar) noItems noneInside

end InstanceNode

end

namespace InstanceNode

section

variable [PatternEngine] (wildcard : String)

mutual

/-- The fields of a JSON value are made of what was there before and of the names in the value. -/
theorem within_hydrateField (basic : allowed.Basic) {key : String}
    (keyAllowed : allowed.key key)
    {existing : Option InstanceNode} (within : ∀ node ∈ existing, node.Within allowed) :
    (value : Json) → value.EachName allowed.key →
      (hydrateField wildcard key existing value).Within allowed
  | .null, _ => within_alone keyAllowed basic.text (basic.emptyValue .text) rfl rfl
  | .obj members, named => by
      have inside : AllWithin allowed ((existing.map (·.children)).getD []) := by
        cases existing with
        | none => exact allWithin_nil
        | some node => exact (within node rfl).inside
      exact (within_fresh basic keyAllowed (basic.ownType .object (by decide))).withChildren
        (within_hydrateMembers basic inside members named)
  | .arr items, named => by
      have itemsWithin : ∀ childDef ∈ existing.bind (·.childDef), childDef.Within allowed := by
        intro childDef defines
        obtain ⟨node, isExisting, defined⟩ := Option.bind_eq_some_iff.mp defines
        exact (within node isExisting).holds.itemsAllowed childDef defined
      rw [hydrateField, within_iff]
      exact ⟨⟨keyAllowed, basic.ownType .array (by decide), basic.emptyValue .array, itemsWithin⟩,
        within_hydrateItems basic itemsWithin items named⟩
  | .bool _, _ =>
      within_hydrated basic keyAllowed (allowed_type_existing within) rfl rfl rfl rfl
  | .num _, _ =>
      within_hydrated basic keyAllowed (allowed_type_existing within) rfl rfl rfl rfl
  | .str _, _ =>
      within_hydrated basic keyAllowed (allowed_type_existing within) rfl rfl rfl rfl

theorem within_hydrateItem (basic : allowed.Basic) {childDef : Option ChildDef}
    (itemsWithin : ∀ items ∈ childDef, items.Within allowed) :
    (value : Json) → value.EachName allowed.key →
      (hydrateItem wildcard childDef value).Within allowed
  | .null, _ => within_fresh basic basic.noKey basic.text
  | .obj members, named =>
      (within_fresh basic basic.noKey (basic.ownType .object (by decide))).withChildren
        (within_hydrateMembers basic (within_itemFields basic itemsWithin) members named)
  | .arr items, named =>
      (within_fresh basic basic.noKey (basic.ownType .array (by decide))).withChildren
        (within_hydrateItems basic (by simp) items named)
  | .bool _, _ =>
      within_hydrated basic basic.noKey (allowed_type_items itemsWithin) rfl rfl rfl rfl
  | .num _, _ =>
      within_hydrated basic basic.noKey (allowed_type_items itemsWithin) rfl rfl rfl rfl
  | .str _, _ =>
      within_hydrated basic basic.noKey (allowed_type_items itemsWithin) rfl rfl rfl rfl

theorem within_hydrateMembers (basic : allowed.Basic) {existing : List InstanceNode}
    (within : AllWithin allowed existing) :
    (members : List (String × Json)) → Json.MembersEachName allowed.key members →
      AllWithin allowed (hydrateMembers wildcard existing members)
  | [], _ => allWithin_nil
  | (key, value) :: rest, named => by
      rw [hydrateMembers, AllWithin, List.forall_mem_cons]
      exact ⟨within_hydrateField basic named.1
          (fun node found => within node (mem_of_matching? found)) value named.2.1,
        within_hydrateMembers basic within rest named.2.2⟩

theorem within_hydrateItems (basic : allowed.Basic) {childDef : Option ChildDef}
    (itemsWithin : ∀ items ∈ childDef, items.Within allowed) :
    (items : List Json) → Json.ItemsEachName allowed.key items →
      AllWithin allowed (hydrateItems wildcard childDef items)
  | [], _ => allWithin_nil
  | item :: rest, named => by
      rw [hydrateItems, AllWithin, List.forall_mem_cons]
      exact ⟨within_hydrateItem basic itemsWithin item named.1,
        within_hydrateItems basic itemsWithin rest named.2⟩

end

end

end InstanceNode

end Formwork
