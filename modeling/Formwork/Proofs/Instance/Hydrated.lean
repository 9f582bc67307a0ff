/-
This file shows that fields rebuilt from a JSON body represent exactly this body, whatever fields
were there before, and that a body rebuilt from nothing is sent as it was.
-/

import Formwork.Instance.Edit
import Formwork.Proofs.Instance.Cast
import Formwork.Proofs.Json.Settled
import Formwork.Proofs.Reconcile.Kept
import Formwork.SizedEngine

namespace Formwork

namespace Json

mutual

/-- The value without the members that have no name, and with an empty text for each null. -/
def filled : Json → Json
  | null => str ""
  | arr items => arr (filledItems items)
  | obj members => obj (filledMembers members)
  | value => value

def filledItems : List Json → List Json
  | [] => []
  | item :: rest => filled item :: filledItems rest

def filledMembers : List (String × Json) → List (String × Json)
  | [] => []
  | (name, value) :: rest =>
      if name.isEmpty then filledMembers rest else (name, filled value) :: filledMembers rest

end

end Json

namespace InstanceNode

mutual

/-- A field represents a value: members and items one to one and in their order, every other value as
it is in a scalar, and null as an empty text. -/
def Represents : Json → InstanceNode → Prop
  | .null, node => node.type = .text ∧ node.value = .str "" ∧ node.children = []
  | .arr items, node => node.type = .array ∧ RepresentsItems items node.children
  | .obj members, node => node.type = .object ∧ RepresentsMembers members node.children
  | value, node => node.shape = .scalar ∧ node.value = value ∧ node.children = []

def RepresentsItems : List Json → List InstanceNode → Prop
  | [], [] => True
  | item :: items, node :: nodes => Represents item node ∧ RepresentsItems items nodes
  | _, _ => False

def RepresentsMembers : List (String × Json) → List InstanceNode → Prop
  | [], [] => True
  | (name, value) :: members, node :: nodes =>
      node.key = name ∧ Represents value node ∧ RepresentsMembers members nodes
  | _, _ => False

end

theorem shape_scalarType (previous : Option FieldType) (value : Json) :
    (scalarType previous value).shape = .scalar := by
  have kept : ((previous.filter (·.shape == .scalar)).getD .text).shape = .scalar := by
    cases scalar : previous.filter (·.shape == .scalar) with
    | none => rfl
    | some type => simpa using (Option.filter_eq_some_iff.mp scalar).2
  cases value <;> first | rfl | exact kept

section

variable [PatternEngine] (wildcard : String)

mutual

theorem represents_hydrateField (key : String) (existing : Option InstanceNode) :
    (value : Json) → Represents value (hydrateField wildcard key existing value)
  | .null => ⟨rfl, rfl, rfl⟩
  | .bool _ => ⟨rfl, rfl, rfl⟩
  | .num _ => ⟨rfl, rfl, rfl⟩
  | .str content => ⟨shape_scalarType _ (.str content), rfl, rfl⟩
  | .arr items => ⟨rfl, representsItems_hydrateItems (existing.bind (·.childDef)) items⟩
  | .obj members =>
      ⟨rfl, representsMembers_hydrateMembers _ members⟩

theorem represents_hydrateItem (childDef : Option ChildDef) :
    (value : Json) → Represents value (hydrateItem wildcard childDef value)
  | .null => ⟨rfl, rfl, rfl⟩
  | .bool _ => ⟨rfl, rfl, rfl⟩
  | .num _ => ⟨rfl, rfl, rfl⟩
  | .str content => ⟨shape_scalarType _ (.str content), rfl, rfl⟩
  | .arr items => ⟨rfl, representsItems_hydrateItems none items⟩
  | .obj members => ⟨rfl, representsMembers_hydrateMembers (itemFields childDef) members⟩

theorem representsItems_hydrateItems (childDef : Option ChildDef) :
    (items : List Json) → RepresentsItems items (hydrateItems wildcard childDef items)
  | [] => trivial
  | item :: rest =>
      ⟨represents_hydrateItem childDef item, representsItems_hydrateItems childDef rest⟩

theorem representsMembers_hydrateMembers (existing : List InstanceNode) :
    (members : List (String × Json)) →
      RepresentsMembers members (hydrateMembers wildcard existing members)
  | [] => trivial
  | (key, value) :: rest => by
      refine ⟨?_, represents_hydrateField key (matching? wildcard existing key) value,
        representsMembers_hydrateMembers existing rest⟩
      cases value <;> rfl

end

end

theorem payloadValue_of_scalar {node : InstanceNode} (isScalar : node.shape = .scalar) :
    payloadValue node = node.type.cast node.value := by
  obtain ⟨key, type, value, enabled, children, childDef, info⟩ := node
  cases type
  case object => cases isScalar
  case array => cases isScalar
  all_goals rfl

end InstanceNode

/-- What the fields that were there before say about a place in a body: the type that a text gets,
the fields that the members of an object are matched with, and the definition of the items of a
list. -/
structure Place where
  type : FieldType
  fields : List InstanceNode
  items : Option ChildDef

section

variable [PatternEngine]

namespace Place

/-- The place of a member, next to the field that was there before. -/
def ofField (existing : Option InstanceNode) : Place where
  type := InstanceNode.scalarType (existing.map (·.type)) (.str "")
  fields := (existing.map (·.children)).getD []
  items := existing.bind (·.childDef)

/-- The place of an item. -/
def ofItem (childDef : Option ChildDef) : Place where
  type := InstanceNode.scalarType (childDef.map (·.type)) (.str "")
  fields := InstanceNode.itemFields childDef
  items := none

variable (wildcard : String)

mutual

/-- What a value is sent as after fields were rebuilt from it. -/
def sent (place : Place) : Json → Json
  | .null => .str ""
  | .str content => place.type.cast (.str content)
  | .arr items => .arr (sentItems (ofItem place.items) items)
  | .obj members => .obj (sentMembers place.fields members)
  | value => value

def sentItems (place : Place) : List Json → List Json
  | [] => []
  | item :: rest => sent place item :: sentItems place rest

def sentMembers (existing : List InstanceNode) : List (String × Json) → List (String × Json)
  | [] => []
  | (name, value) :: rest =>
      if name.isEmpty then sentMembers existing rest
      else
        (name, sent (ofField (InstanceNode.matching? wildcard existing name)) value) ::
          sentMembers existing rest

end

theorem names_sentMembers_sublist (existing : List InstanceNode) (members : List (String × Json)) :
    (Entries.names (sentMembers wildcard existing members)).Sublist (Entries.names members) := by
  induction members with
  | nil => exact .slnil
  | cons member rest inductionHypothesis =>
      obtain ⟨name, value⟩ := member
      rw [sentMembers]
      split
      · exact inductionHypothesis.cons _
      · exact inductionHypothesis.cons_cons _

/-- Of members of distinct names no two are sent under one name. -/
theorem settle_sentMembers (existing : List InstanceNode) {members : List (String × Json)}
    (distinct : (Entries.names members).Nodup) :
    Entries.settle (sentMembers wildcard existing members) =
      sentMembers wildcard existing members :=
  Entries.settle_of_nodup ((names_sentMembers_sublist wildcard existing members).nodup distinct)

end Place

end

namespace InstanceNode

/-- The field and all fields inside it are on. -/
def AllEnabled : InstanceNode → Prop :=
  Everywhere fun node => node.enabled = true

theorem allEnabled_defaults_of {nodes : List SchemaNode}
    (each : ∀ node ∈ nodes, (ofSchema node).AllEnabled) :
    ∀ field ∈ defaults nodes, field.AllEnabled := by
  rw [defaults_eq_map, List.forall_mem_map]
  exact each

theorem allEnabled_ofSchema (node : SchemaNode) : (ofSchema node).AllEnabled := by
  induction node using SchemaNode.induction with
  | inside node inductionHypothesis =>
      rw [AllEnabled, everywhere_iff, children_ofSchema]
      constructor
      · obtain ⟨info, _ | nodes⟩ := node <;> rfl
      · split
        · exact allEnabled_defaults_of inductionHypothesis
        · exact List.forall_mem_nil _

theorem allEnabled_itemFields (childDef : Option ChildDef) :
    ∀ field ∈ itemFields childDef, field.AllEnabled := by
  cases childDef with
  | none => exact List.forall_mem_nil _
  | some items =>
      rw [itemFields, Option.filter_some]
      split
      · rename_i isObject
        rw [Option.map_some, Option.getD_some, ChildDef.newItem]
        simp only [beq_iff_eq.mp isObject, if_true]
        exact allEnabled_defaults_of fun node _ => allEnabled_ofSchema node
      · exact List.forall_mem_nil _

variable [PatternEngine]

/-- The field for a member is one of the fields that were there before. -/
theorem mem_of_matching? {wildcard key : String} {existing : List InstanceNode}
    {node : InstanceNode} (found : matching? wildcard existing key = some node) :
    node ∈ existing := by
  rw [matching?, Option.orElse_eq_orElse, Option.orElse_eq_or, Option.or_eq_some_iff] at found
  rcases found with byKey | ⟨_, byTemplate⟩
  · exact List.mem_of_find?_eq_some byKey
  · exact List.mem_of_find?_eq_some byTemplate

section

variable (wildcard : String)

theorem key_hydrateField (key : String) (existing : Option InstanceNode) (value : Json) :
    (hydrateField wildcard key existing value).key = key := by
  cases value <;> rfl

theorem keys_hydrateMembers (existing : List InstanceNode) (members : List (String × Json)) :
    (hydrateMembers wildcard existing members).map (·.key) = Entries.names members := by
  induction members with
  | nil => rfl
  | cons member rest inductionHypothesis =>
      obtain ⟨key, value⟩ := member
      rw [hydrateMembers, List.map_cons, key_hydrateField, inductionHypothesis]
      rfl

theorem enabled_hydrateField (key : String) {existing : Option InstanceNode}
    (on : ∀ node ∈ existing, node.enabled = true) (value : Json) :
    (hydrateField wildcard key existing value).enabled = true := by
  have kept : (existing.map (·.enabled)).getD true = true := by
    cases existing with
    | none => rfl
    | some node => exact on node rfl
  cases value <;> first | rfl | exact kept

theorem enabled_hydrateItem (childDef : Option ChildDef) (value : Json) :
    (hydrateItem wildcard childDef value).enabled = true := by
  cases value <;> rfl

mutual

/-- A field rebuilt from a value next to fields that are on sends what its place makes of the value. -/
theorem payloadValue_hydrateField (key : String) {existing : Option InstanceNode}
    (on : ∀ node ∈ (Place.ofField existing).fields, node.AllEnabled) :
    (value : Json) → value.NamesDistinct →
      payloadValue (hydrateField wildcard key existing value) =
        (Place.ofField existing).sent wildcard value
  | .null, _ => rfl
  | .bool _, _ => rfl
  | .num _, _ => rfl
  | .str content, _ => payloadValue_of_scalar (shape_scalarType _ (.str content))
  | .arr items, distinct => congrArg Json.arr (payloadItems_hydrateItems _ items distinct)
  | .obj members, distinct => by
      have same := payloadMembers_hydrateMembers on members distinct.2
      exact congrArg Json.obj
        ((congrArg Entries.settle same).trans (Place.settle_sentMembers wildcard _ distinct.1))

theorem payloadValue_hydrateItem (childDef : Option ChildDef) :
    (value : Json) → value.NamesDistinct →
      payloadValue (hydrateItem wildcard childDef value) =
        (Place.ofItem childDef).sent wildcard value
  | .null, _ => rfl
  | .bool _, _ => rfl
  | .num _, _ => rfl
  | .str content, _ => payloadValue_of_scalar (shape_scalarType _ (.str content))
  | .arr items, distinct => congrArg Json.arr (payloadItems_hydrateItems none items distinct)
  | .obj members, distinct => by
      have same :=
        payloadMembers_hydrateMembers (allEnabled_itemFields childDef) members distinct.2
      exact congrArg Json.obj
        ((congrArg Entries.settle same).trans (Place.settle_sentMembers wildcard _ distinct.1))

theorem payloadItems_hydrateItems (childDef : Option ChildDef) :
    (items : List Json) → Json.ItemsDistinct items →
      payloadItems (hydrateItems wildcard childDef items) =
        (Place.ofItem childDef).sentItems wildcard items
  | [], _ => rfl
  | item :: rest, distinct => by
      rw [hydrateItems, payloadItems, if_pos (enabled_hydrateItem wildcard childDef item),
        payloadValue_hydrateItem childDef item distinct.1,
        payloadItems_hydrateItems childDef rest distinct.2]
      rfl

theorem payloadMembers_hydrateMembers {existing : List InstanceNode}
    (on : ∀ node ∈ existing, node.AllEnabled) :
    (members : List (String × Json)) → Json.MembersDistinct members →
      payloadMembers (hydrateMembers wildcard existing members) =
        Place.sentMembers wildcard existing members
  | [], _ => rfl
  | (key, value) :: rest, distinct => by
      have matchedOn : ∀ node ∈ matching? wildcard existing key,
          node.enabled = true ∧ ∀ field ∈ node.children, field.AllEnabled :=
        fun node found => (everywhere_iff node).mp (on node (mem_of_matching? found))
      have isOn := enabled_hydrateField wildcard key (fun node found => (matchedOn node found).1) value
      have fieldsOn : ∀ field ∈ (Place.ofField (matching? wildcard existing key)).fields,
          field.AllEnabled := by
        cases found : matching? wildcard existing key with
        | none => exact List.forall_mem_nil _
        | some node => exact (matchedOn node found).2
      rw [hydrateMembers, payloadMembers, isOn, key_hydrateField,
        payloadValue_hydrateField key fieldsOn value distinct.1,
        payloadMembers_hydrateMembers on rest distinct.2]
      rfl

end

end

end InstanceNode

namespace Place

variable [PatternEngine] (wildcard : String)

mutual

/-- Without a field before, a value is sent as it is, but for nulls and members without a name. -/
theorem sent_ofField_none :
    (value : Json) → (ofField none).sent wildcard value = value.filled
  | .null => rfl
  | .bool _ => rfl
  | .num _ => rfl
  | .str content => FieldType.cast_of_isPinned rfl (.str content)
  | .arr items => congrArg Json.arr (sentItems_ofField_none items)
  | .obj members => congrArg Json.obj (sentMembers_nil members)

theorem sentItems_ofField_none :
    (items : List Json) → (ofField none).sentItems wildcard items = Json.filledItems items
  | [] => rfl
  | item :: rest => by
      rw [sentItems, Json.filledItems, sent_ofField_none item, sentItems_ofField_none rest]

theorem sentMembers_nil :
    (members : List (String × Json)) → sentMembers wildcard [] members = Json.filledMembers members
  | [] => rfl
  | (name, value) :: rest => by
      rw [sentMembers, Json.filledMembers, sentMembers_nil rest, ← sent_ofField_none value]
      rfl

end

end Place

/-- Fields rebuilt from an object represent exactly this object, whatever fields there were before. If
there were none, they are sent as the object was, without the members that have no name and with an
empty text for each null. -/
theorem hydrate_represents [PatternEngine] (options : CompileOptions)
    (members : List (String × Json)) (existing : List InstanceNode) :
    InstanceNode.RepresentsMembers members (hydrate options (.obj members) existing) ∧
      ((Json.obj members).NamesDistinct →
        payload (hydrate options (.obj members) []) = (Json.obj members).filled) := by
  refine ⟨InstanceNode.representsMembers_hydrateMembers options.wildcard existing members, ?_⟩
  intro distinct
  have nothingOff : ∀ node ∈ (Place.ofField none).fields, node.AllEnabled := nofun
  calc
    payload (hydrate options (.obj members) []) =
        InstanceNode.payloadValue
          (InstanceNode.hydrateField options.wildcard "" none (.obj members)) := rfl
    _ = (Place.ofField none).sent options.wildcard (.obj members) :=
      InstanceNode.payloadValue_hydrateField options.wildcard "" nothingOff (.obj members) distinct
    _ = (Json.obj members).filled := Place.sent_ofField_none options.wildcard (.obj members)

/-- A body with a null, a list of lists and a member without a name. -/
def noteBody : List (String × Json) :=
  [("title", .null), ("lines", .arr [.obj [("n", .num (.int 1)), ("", .bool true)], .arr [.null]]),
    ("", .str "x")]

/-- The body is read next to fields of other shapes, and sent without what it cannot send. -/
theorem hydrate_represents_note :
    InstanceNode.RepresentsMembers noteBody
        (hydrate {} (.obj noteBody)
          [.fresh "title" .array, { InstanceNode.fresh "lines" .number with enabled := false }]) ∧
      (Json.obj noteBody).NamesDistinct ∧
      payload (hydrate {} (.obj noteBody) []) =
        .obj [("title", .str ""),
          ("lines", .arr [.obj [("n", .num (.int 1))], .arr [.str ""]])] := by
  have distinct : (Json.obj noteBody).NamesDistinct := by decide
  have represented := hydrate_represents {} noteBody
    [.fresh "title" .array, { InstanceNode.fresh "lines" .number with enabled := false }]
  refine ⟨represented.1, distinct, (represented.2 distinct).trans ?_⟩
  decide

end Formwork
