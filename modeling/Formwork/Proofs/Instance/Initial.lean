/-
This file shows what is sent before any edit: the body mirrors the schema, and so do the new items
of its lists.
-/

import Formwork.Proofs.Instance.Pruned
import Formwork.Proofs.Instance.WellFormed
import Formwork.Proofs.Schema.Compiled
import Formwork.Schema.Compile
import Formwork.SizedEngine

namespace Formwork

namespace SchemaNode

mutual

/-- What a field sends before any edit: no items, the fields of an object, false, or no text. -/
def initialValue : SchemaNode → Json
  | ⟨info, inside⟩ =>
      match info.shape with
      | .list => .arr []
      | .object => .obj (initialInside inside)
      | .scalar => if info.type = .boolean then .bool false else .str ""

def initialInside : Option (List SchemaNode) → List (String × Json)
  | none => []
  | some nodes => initialMembers nodes

/-- One member for each field with a key, in order. -/
def initialMembers : List SchemaNode → List (String × Json)
  | [] => []
  | node :: rest =>
      if node.key.isEmpty then initialMembers rest
      else (node.key, initialValue node) :: initialMembers rest

end

/-- What a new item of a list sends. -/
def initialItem (node : SchemaNode) : Json :=
  if node.info.type = .object then .obj (initialMembers node.children)
  else
    match node.info.childType with
    | some .array => .arr []
    | some .boolean => .bool false
    | _ => .str ""

theorem initialValue_eq (node : SchemaNode) :
    initialValue node =
      match node.shape with
      | .list => .arr []
      | .object => .obj (initialMembers node.children)
      | .scalar => if node.info.type = .boolean then .bool false else .str "" := by
  obtain ⟨info, _ | nodes⟩ := node <;> rfl

theorem initialMembers_eq_map (nodes : List SchemaNode) :
    initialMembers nodes =
      (nodes.filter (!·.key.isEmpty)).map fun node => (node.key, initialValue node) := by
  induction nodes with
  | nil => rfl
  | cons node rest inductionHypothesis =>
      rw [initialMembers, inductionHypothesis, List.filter_cons]
      cases node.key.isEmpty <;> rfl

end SchemaNode

/-- An empty value is sent as it is. -/
theorem FieldType.cast_emptyValue {type : FieldType} (isScalar : type.shape = .scalar) :
    type.cast type.emptyValue = if type = .boolean then .bool false else .str "" := by
  cases type with
  | object => cases isScalar
  | array => cases isScalar
  | _ => rfl

namespace InstanceNode

/-- What a field contributes by its shape. -/
theorem payloadValue_eq (node : InstanceNode) :
    payloadValue node =
      match node.shape with
      | .list => .arr (payloadItems node.children)
      | .object => .obj (Entries.settle (payloadMembers node.children))
      | .scalar => node.type.cast node.value := by
  obtain ⟨key, type, value, enabled, children, childDef, info⟩ := node
  cases type <;> rfl

theorem ofSchema_eq (node : SchemaNode) :
    ofSchema node =
      { fresh node.key (if node.shape = .list then .array else node.info.type) with
        children := if node.shape = .object then defaults node.children else []
        childDef := ChildDef.ofNode? node
        info := some node.info } := by
  rw [← children_ofSchema]
  obtain ⟨info, _ | nodes⟩ := node <;> rfl

/-- Default fields are sent if they have a key. -/
theorem isSentFrom_ofSchema (node : SchemaNode) :
    (ofSchema node).isSentFrom .object = !node.key.isEmpty := by
  rw [ofSchema_eq]
  rfl

theorem payloadMembers_defaults_of {nodes : List SchemaNode}
    (each : ∀ node ∈ nodes, payloadValue (ofSchema node) = node.initialValue) :
    payloadMembers (defaults nodes) = SchemaNode.initialMembers nodes := by
  rw [payloadMembers_eq_map, SchemaNode.initialMembers_eq_map, defaults_eq_map, List.filter_map,
    List.map_map]
  have sameSent : ((·.isSentFrom .object) ∘ ofSchema) = fun node => !node.key.isEmpty :=
    funext isSentFrom_ofSchema
  rw [sameSent]
  apply List.map_congr_left
  intro node member
  rw [Function.comp_apply, key_ofSchema, each node (List.mem_filter.mp member).1]

theorem settle_payloadMembers_defaults {nodes : List SchemaNode}
    (distinct : SchemaNode.SiblingsDistinct nodes) :
    Entries.settle (payloadMembers (defaults nodes)) = payloadMembers (defaults nodes) :=
  settle_payloadMembers (siblingsDistinct_defaults distinct)

/-- A default field sends what its schema node tells. -/
theorem payloadValue_ofSchema {node : SchemaNode} (distinct : node.KeysDistinct) :
    payloadValue (ofSchema node) = node.initialValue := by
  induction node using SchemaNode.induction with
  | inside node inductionHypothesis =>
      have distinctInside := (SchemaNode.keysDistinct_iff node).mp distinct
      rw [payloadValue_eq, shape_ofSchema, SchemaNode.initialValue_eq, children_ofSchema]
      cases shape : node.shape with
      | list => rfl
      | object =>
          have sent := payloadMembers_defaults_of fun child member =>
            inductionHypothesis child member (distinctInside.2 child member)
          simp only [if_true]
          rw [settle_payloadMembers_defaults distinctInside.1, sent]
      | scalar =>
          have isScalar : node.info.type.shape = .scalar := by
            have sameShape := shape_ofSchema node
            rwa [shape, ofSchema_eq, shape] at sameShape
          rw [ofSchema_eq]
          simp only [shape]
          exact FieldType.cast_emptyValue isScalar

/-- The default fields of a schema send what the schema tells. -/
theorem payloadMembers_defaults {nodes : List SchemaNode}
    (distinct : SchemaNode.AllKeysDistinct nodes) :
    payloadMembers (defaults nodes) = SchemaNode.initialMembers nodes :=
  payloadMembers_defaults_of fun node member => payloadValue_ofSchema (distinct.2 node member)

end InstanceNode

theorem payload_defaults {nodes : List SchemaNode} (distinct : SchemaNode.AllKeysDistinct nodes) :
    payload (InstanceNode.defaults nodes) = .obj (SchemaNode.initialMembers nodes) := by
  rw [payload, InstanceNode.settle_payloadMembers_defaults distinct.1,
    InstanceNode.payloadMembers_defaults distinct]

namespace SchemaNode

/-- The items of a list that is no list of objects are no objects. -/
def ItemsFlat (node : SchemaNode) : Prop :=
  node.info.childType ≠ some .object

/-- If the node is a list, a new item sends what the node tells. -/
def SendsItems (node : SchemaNode) : Prop :=
  node.shape = .list →
    ∃ childDef, ChildDef.ofNode? node = some childDef ∧
      childDef.newItem.payloadValue = node.initialItem

theorem sendsItems_of_flat {node : SchemaNode} (distinct : node.KeysDistinct)
    (flat : node.ItemsFlat) : node.SendsItems := by
  intro isList
  rw [ChildDef.ofNode?, if_pos isList, initialItem]
  refine ⟨_, rfl, ?_⟩
  by_cases isObject : node.info.type = .object
  · have distinctInside := (keysDistinct_iff node).mp distinct
    rw [if_pos isObject, if_pos isObject, ← InstanceNode.payloadMembers_defaults distinctInside,
      ← InstanceNode.settle_payloadMembers_defaults distinctInside.1]
    rfl
  · rw [if_neg isObject, if_neg isObject]
    cases itemType : node.info.childType with
    | none => rfl
    | some type =>
        cases type with
        | object => exact absurd itemType flat
        | _ => rfl

theorem everywhere_sendsItems {node : SchemaNode} (distinct : node.KeysDistinct)
    (flat : node.Everywhere ItemsFlat) : node.Everywhere SendsItems := by
  induction node using SchemaNode.induction with
  | inside node inductionHypothesis =>
      have distinctInside := (keysDistinct_iff node).mp distinct
      rw [everywhere_iff] at flat ⊢
      refine ⟨sendsItems_of_flat distinct flat.1, fun child member => ?_⟩
      exact inductionHypothesis child member (distinctInside.2 child member) (flat.2 child member)

/-- Before any edit the body of fields mirrors their schema, and so do the new items of lists. -/
structure SendsInitial [PatternEngine] (nodes : List SchemaNode) : Prop where
  body (options : CompileOptions) :
    payload (reconcile options nodes []) = .obj (initialMembers nodes)
  items : ∀ node ∈ nodes, node.Everywhere SendsItems

end SchemaNode

section

variable (options : CompileOptions) {entries : List (String × SchemaNode)}

/-- A leaf that says nothing about items. -/
def SchemaNode.ItemlessLeaf (leaf : SchemaNode) : Prop :=
  leaf.IsLeaf ∧ leaf.info.childType = none

theorem SchemaNode.itemsFlat_ofItems (info : FieldInfo) (item : Option SchemaNode)
    (fields : List SchemaNode) : (ofItems options info item fields).ItemsFlat := by
  rw [ofItems]
  split
  · exact (Option.some_ne_none _).symm
  · split
    · exact (Option.some_ne_none _).symm
    · rename_i notObject
      split
      · exact (Option.some_ne_none _).symm
      · exact fun isObject => notObject (Option.some.inj isObject)

theorem SchemaNode.itemsFlat_normalize {node : SchemaNode} (itemless : node.info.childType = none) :
    node.normalize.ItemsFlat := by
  have textNotObject : some FieldType.text ≠ some .object := by decide
  rw [normalize, itemless]
  split
  · exact (Option.some_ne_none _).symm
  · exact textNotObject
  · exact (Option.some_ne_none _).symm

/-- No list of a schema that is assembled from leaves is one of objects by the type of its items
alone. -/
theorem itemsFlat_assemble (leaves : ∀ entry ∈ entries, entry.2.ItemlessLeaf) :
    ∀ node ∈ assemble options entries, node.Everywhere SchemaNode.ItemsFlat := by
  apply everywhere_assemble options leaves
  · intro leaf itemlessLeaf
    rw [itemlessLeaf.1]
    nofun
  · intro branch grown
    rcases PathTree.node_cases options branch with ⟨item, _, same⟩ | ⟨_, same⟩ | same
    · rw [same]
      exact SchemaNode.itemsFlat_ofItems options _ item.leaf _
    · rw [same]
      apply SchemaNode.itemsFlat_normalize
      obtain ⟨key, _ | leaf, children⟩ := branch
      · rfl
      · exact (((PathTree.grown_iff _).mp grown).1 leaf rfl).2
    · rw [same]
      exact nofun

theorem sendsInitial_assemble [PatternEngine] (leaves : ∀ entry ∈ entries, entry.2.ItemlessLeaf) :
    SchemaNode.SendsInitial (assemble options entries) := by
  have distinct := allKeysDistinct_assemble options fun entry member => (leaves entry member).1
  have flat := itemsFlat_assemble options leaves
  exact ⟨fun _ => payload_defaults distinct,
    fun node member => SchemaNode.everywhere_sendsItems (distinct.2 node member) (flat node member)⟩

end

/-- The body of compiled rules or of manual parameters mirrors their schema before any edit: lists
without items, the fields of objects, false, and no text. The new items of lists mirror theirs. -/
theorem initial_payload [PatternEngine] (options : CompileOptions) :
    (∀ rules : RuleSet, SchemaNode.SendsInitial (rules.compile options)) ∧
      ∀ parameters : List ManualParam,
        SchemaNode.SendsInitial (compileManual options parameters) := by
  constructor
  · intro rules
    apply sendsInitial_assemble
    rw [List.forall_mem_map]
    exact fun _ _ => ⟨rfl, rfl⟩
  · intro parameters
    apply sendsInitial_assemble
    rw [List.forall_mem_map]
    exact fun _ _ => ⟨rfl, rfl⟩

/-- The rules of a registration: a grid is a list of lists, and what is said beyond the fields is an
object without fields. -/
def registrationRules : RuleSet :=
  .ofList
    [("name", .text "required|string"), ("terms", .text "boolean"),
      ("address.city", .text "string"), ("guests.*.age", .text "integer|min:0"),
      ("guests.*.vegan", .text "boolean"), ("guests.*.dates.*", .text "date"),
      ("grid.*", .text "array"), ("metadata.*", .text "string")]

/-- The registration starts without guests, and a new guest without dates. -/
theorem initial_payload_registration :
    payload (reconcile {} (registrationRules.compile {}) []) =
        .obj
          [("name", .str ""), ("terms", .bool false), ("address", .obj [("city", .str "")]),
            ("guests", .arr []), ("grid", .arr []), ("metadata", .obj [])] ∧
      ∃ guests ∈ registrationRules.compile {}, guests.key = "guests" ∧ guests.shape = .list ∧
        ∃ childDef, ChildDef.ofNode? guests = some childDef ∧
          childDef.newItem.payloadValue =
            .obj [("age", .str ""), ("vegan", .bool false), ("dates", .arr [])] := by
  have sends := (initial_payload {}).1 registrationRules
  obtain ⟨guests, member, isGuests, isList, sent⟩ :
      ∃ guests ∈ registrationRules.compile {}, guests.key = "guests" ∧ guests.shape = .list ∧
        guests.initialItem =
          .obj [("age", .str ""), ("vegan", .bool false), ("dates", .arr [])] := by
    decide +kernel
  obtain ⟨childDef, defines, sendsItem⟩ :=
    ((SchemaNode.everywhere_iff guests).mp (sends.items guests member)).1 isList
  refine ⟨(sends.body {}).trans ?_, guests, member, isGuests, isList, childDef, defines,
    sendsItem.trans sent⟩
  decide +kernel

end Formwork
