/-
This file follows a session through edits and reopenings, also with other schemas: its fields stay
well-formed, and so do those that it would be opened from.
-/

import Formwork.Proofs.Session.Lasting
import Formwork.Proofs.Session.WellFormed
import Formwork.SizedEngine

namespace Formwork

/-- Reading a written type leaves lists and objects what they are. -/
theorem FieldType.readBack_of_notScalar {type : FieldType} (notScalar : type.shape ≠ .scalar) :
    type.readBack = type := by
  cases type
  case object => decide
  case array => decide
  all_goals exact absurd rfl notScalar

namespace InstanceNode

/-- A change of every field, inside first, that makes no object or list anything else. A scalar may
become an object, because nothing is inside it. -/
structure KeepsLevels (change : InstanceNode → InstanceNode) : Prop where
  sameKey : ∀ node, (change node).key = node.key
  mapsInside : ∀ node, (change node).children = node.children.map change
  sameShape : ∀ node, node.shape ≠ .scalar → (change node).shape = node.shape
  keepsItems : ∀ node, (∀ childDef ∈ node.childDef, childDef.KeysDistinct) →
    ∀ childDef ∈ (change node).childDef, childDef.KeysDistinct

namespace KeepsLevels

variable {change : InstanceNode → InstanceNode} (keepsLevels : KeepsLevels change)
include keepsLevels

theorem siblingsDistinct_map {nodes : List InstanceNode} (distinct : SiblingsDistinct nodes) :
    SiblingsDistinct (nodes.map change) := by
  have sameKeys : (nodes.map change).map (·.key) = nodes.map (·.key) := by
    rw [List.map_map]
    exact List.map_congr_left fun node _ => keepsLevels.sameKey node
  rwa [SiblingsDistinct, sameKeys]

theorem wellFormed_change {node : InstanceNode} (wellFormed : node.WellFormed) :
    (change node).WellFormed := by
  induction node using InstanceNode.induction with
  | inside node inductionHypothesis =>
      have itemsDistinct := keepsLevels.keepsItems node wellFormed.holds.itemsDistinct
      by_cases isScalar : node.shape = .scalar
      · apply wellFormed_of_noneInside _ itemsDistinct
        rw [keepsLevels.mapsInside, wellFormed.holds.noneInside isScalar, List.map_nil]
      · rw [wellFormed_iff, keepsLevels.mapsInside]
        refine ⟨⟨?_, ?_, itemsDistinct⟩, ?_⟩
        · rw [keepsLevels.sameShape node isScalar, keepsLevels.mapsInside]
          exact fun isObject =>
            keepsLevels.siblingsDistinct_map (wellFormed.holds.insideDistinct isObject)
        · rw [keepsLevels.sameShape node isScalar]
          exact fun same => absurd same isScalar
        · rw [List.forall_mem_map]
          exact fun child member =>
            inductionHypothesis child member (wellFormed.inside child member)

theorem allWellFormed_map {nodes : List InstanceNode} (wellFormed : AllWellFormed nodes) :
    AllWellFormed (nodes.map change) := by
  refine ⟨keepsLevels.siblingsDistinct_map wellFormed.1, ?_⟩
  rw [List.forall_mem_map]
  exact fun node member => keepsLevels.wellFormed_change (wellFormed.2 node member)

end KeepsLevels

theorem keepsLevels_sanitized : KeepsLevels sanitized where
  sameKey node := by rw [sanitized_eq]
  mapsInside node := by rw [sanitized_eq]
  sameShape node _ := by
    rw [sanitized_eq]
    rfl
  keepsItems node distinct := by rwa [sanitized_eq]

theorem keepsLevels_readBack : KeepsLevels readBack where
  sameKey node := by rw [readBack_eq]
  mapsInside node := by rw [readBack_eq]
  sameShape node notScalar := by
    rw [readBack_eq, shape, FieldType.readBack_of_notScalar notScalar, shape]
  keepsItems node distinct := by
    rw [readBack_eq]
    intro childDef defines
    obtain ⟨written, isWritten, rfl⟩ := Option.map_eq_some_iff.mp defines
    exact ChildDef.keysDistinct_readBack (distinct written isWritten)

end InstanceNode

/-- The fields that are read from what is stored under a key are well-formed. -/
def Store.WellFormedAt (store : Store) (key : String) : Prop :=
  ∀ state, store.get? key = some state →
    ∀ nodes, SavedState.nodes state = .ok nodes → InstanceNode.AllWellFormed nodes

namespace Session

/-- A session is only opened with schemas of distinct keys. -/
def Action.KeysDistinct : Action → Prop
  | edit _ => True
  | reopen _ schema => SchemaNode.AllKeysDistinct schema

/-- Fields stay well-formed under all edits, as long as keys are distinct in the schema. -/
theorem lasting_wellFormed [PatternEngine] :
    Lasting SchemaNode.AllKeysDistinct (fun _ => True) InstanceNode.AllWellFormed where
  nothing := InstanceNode.allWellFormed_nil
  reconciled options _ _ distinct wellFormed :=
    InstanceNode.allWellFormed_reconcileFields options.wildcard distinct wellFormed
  edited distinct wellFormed _ applied := Edit.allWellFormed_of_apply distinct wellFormed applied
  readBack wellFormed := by
    rw [InstanceNode.sanitizedAll_eq_map]
    exact InstanceNode.keepsLevels_readBack.allWellFormed_map
      (InstanceNode.keepsLevels_sanitized.allWellFormed_map wellFormed)

/-- What every action keeps: fields are well-formed in the session, after it is reset, and when it is
opened again. -/
structure Sound (session : Session) : Prop where
  schemaDistinct : SchemaNode.AllKeysDistinct session.schema
  wellFormed : InstanceNode.AllWellFormed session.nodes
  stored : session.store.WellFormedAt session.key

theorem sound_iff_upholds (session : Session) :
    Sound session ↔ Upholds SchemaNode.AllKeysDistinct InstanceNode.AllWellFormed session :=
  ⟨fun ⟨distinct, wellFormed, stored⟩ => ⟨distinct, wellFormed, stored⟩,
    fun ⟨distinct, wellFormed, stored⟩ => ⟨distinct, wellFormed, stored⟩⟩

variable [PatternEngine]

theorem sound_start (options : CompileOptions) {schema : List SchemaNode}
    (distinct : SchemaNode.AllKeysDistinct schema) {store : Store} {key : String}
    (stored : store.WellFormedAt key) : Sound (start options schema store key) := by
  rw [sound_iff_upholds]
  exact lasting_wellFormed.upholds_start options distinct stored

theorem sound_run {session : Session} (sound : Sound session) (edits : List Edit) :
    Sound (session.run edits) := by
  rw [sound_iff_upholds] at sound ⊢
  exact lasting_wellFormed.upholds_run sound fun _ _ => trivial

theorem sound_follow {session : Session} (sound : Sound session) {actions : List Action}
    (distinct : ∀ action ∈ actions, action.KeysDistinct) : Sound (session.follow actions) := by
  rw [sound_iff_upholds] at sound ⊢
  apply lasting_wellFormed.upholds_follow sound
  intro action member
  have actionDistinct := distinct action member
  cases action with
  | edit edit => trivial
  | reopen options schema => exact actionDistinct

end Session

/-- The fields of a session are well-formed after it was opened from well-formed fields or from none,
and after all edits and reopenings, refused ones included, as long as keys are distinct in each
schema. -/
theorem allWellFormed_follow [PatternEngine] (options : CompileOptions) {schema : List SchemaNode}
    (distinct : SchemaNode.AllKeysDistinct schema) {store : Store} {key : String}
    (stored : ∀ state, store.get? key = some state →
      ∀ nodes, SavedState.nodes state = .ok nodes → InstanceNode.AllWellFormed nodes)
    {actions : List Session.Action} (actionsDistinct : ∀ action ∈ actions, action.KeysDistinct) :
    InstanceNode.AllWellFormed ((Session.start options schema store key).follow actions).nodes :=
  (Session.sound_follow (Session.sound_start options distinct stored) actionsDistinct).wellFormed

/-- An order with a list of lines. -/
def orderSchema : List SchemaNode :=
  [.leaf { key := "name", type := .text },
    ⟨{ key := "lines", type := .object, isList := true }, some [.leaf { key := "sku", type := .text }]⟩]

/-- A store with an order without lines. -/
def orderStore : Store :=
  { entries :=
      [("order", .arr [.obj [("key", .str "name")],
        .obj [("key", .str "lines"), ("type", .str "array")]])] }

/-- A second stock number is refused, a repeated member of a text is not, and a line that has become
a text is a list again when the order is opened with its schema. -/
def orderActions : List Session.Action :=
  [.edit (.pushItem "lines"), .edit (.addField "lines.0" "sku" .text),
    .edit (.applyText "\x7b\"lines\": [\x7b\"sku\": \"A\", \"sku\": \"B\"\x7d], \"note\": \x7b\x7d\x7d"),
    .edit (.setType "lines" .text), .reopen {} orderSchema, .edit (.setType "note" (.other "array")),
    .reopen {} []]

/-- The order is well-formed in the end, with a note that has become a list. -/
theorem allWellFormed_follow_order :
    SchemaNode.AllKeysDistinct orderSchema ∧
      (∀ state, orderStore.get? "order" = some state → ∀ nodes,
        SavedState.nodes state = .ok nodes → InstanceNode.AllWellFormed nodes) ∧
      (∀ action ∈ orderActions, action.KeysDistinct) ∧
      InstanceNode.AllWellFormed
        ((Session.start {} orderSchema orderStore "order").follow orderActions).nodes ∧
      ((Session.start {} orderSchema orderStore "order").follow orderActions).nodes.map
          (fun node => (node.key, node.type)) =
        [("lines", .array), ("note", .array)] := by
  have distinct : SchemaNode.AllKeysDistinct orderSchema := by decide
  have stored : ∀ state, orderStore.get? "order" = some state → ∀ nodes,
      SavedState.nodes state = .ok nodes → InstanceNode.AllWellFormed nodes := by
    intro state found nodes read
    obtain rfl := Option.some.inj found
    obtain rfl := Except.ok.inj read
    decide
  have actionsDistinct : ∀ action ∈ orderActions, action.KeysDistinct := by
    simp only [orderActions, List.forall_mem_cons, Session.Action.KeysDistinct, true_and]
    exact ⟨by decide, by decide, List.forall_mem_nil _⟩
  exact ⟨distinct, stored, actionsDistinct,
    allWellFormed_follow {} distinct stored actionsDistinct, by decide +kernel⟩

end Formwork
