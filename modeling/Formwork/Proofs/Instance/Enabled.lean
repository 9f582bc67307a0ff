/-
This file tells which members of an edited body leave the keys that were on or off as they were.
-/

import Formwork.Proofs.Instance.Pruned
import Formwork.Proofs.Instance.Reapplied
import Formwork.Schema.Tree
import Formwork.SizedEngine
import Mathlib.Data.List.Nodup

namespace Formwork

namespace InstanceNode

/-- Whether a key is on, as the first field with the key is. A new key is on. -/
def keyEnabled (before : List InstanceNode) (key : String) : Bool :=
  ((before.find? (·.key == key)).map (·.enabled)).getD true

/-- A body has a member for each of the keys that is on and not empty, and for no other key. -/
def SendsEnabled (before : List InstanceNode) (keys : List String) (body : Json) : Prop :=
  ∃ sent, body = .obj sent ∧ ∀ name,
    name ∈ Entries.names sent ↔ name ∈ keys ∧ name ≠ "" ∧ keyEnabled before name = true

mutual

/-- A rebuilt field is on exactly if its key was. If it is an object, and there was an object with its
key, the same holds for the fields inside it next to the fields of that object, and it sends those
that are on. -/
def KeepsState (before : List InstanceNode) : InstanceNode → Prop
  | ⟨key, type, value, enabled, children, childDef, info⟩ =>
      enabled = keyEnabled before key ∧
        (type = .object → ∀ field ∈ before.find? (·.key == key), field.type = .object →
          SendsEnabled field.children (children.map (·.key))
              (payloadValue ⟨key, type, value, enabled, children, childDef, info⟩) ∧
            AllKeepState field.children children)

def AllKeepState (before : List InstanceNode) : List InstanceNode → Prop
  | [] => True
  | node :: rest => KeepsState before node ∧ AllKeepState before rest

end

theorem enabled_of_allKeepState {before nodes : List InstanceNode}
    (keeps : AllKeepState before nodes) :
    ∀ node ∈ nodes, node.enabled = keyEnabled before node.key := by
  induction nodes with
  | nil => exact List.forall_mem_nil _
  | cons node rest inductionHypothesis =>
      cases node
      exact List.forall_mem_cons.mpr ⟨keeps.1.1, inductionHypothesis keeps.2⟩

theorem sendsEnabled_iff {before nodes : List InstanceNode} {keys : List String} :
    SendsEnabled before keys (.obj (Entries.settle (payloadMembers nodes))) ↔
      ∀ name, (∃ node ∈ nodes, node.key = name ∧ name ≠ "" ∧ node.enabled = true) ↔
        name ∈ keys ∧ name ≠ "" ∧ keyEnabled before name = true := by
  simp only [SendsEnabled, Json.obj.injEq, exists_eq_left', Entries.mem_names_settle,
    mem_names_payloadMembers]

/-- Fields whose states were kept send what is on. -/
theorem sendsEnabled_of_allKeepState {before nodes : List InstanceNode}
    (keeps : AllKeepState before nodes) :
    SendsEnabled before (nodes.map (·.key))
      (.obj (Entries.settle (payloadMembers nodes))) := by
  rw [sendsEnabled_iff]
  intro name
  have kept := enabled_of_allKeepState keeps
  constructor
  · rintro ⟨node, among, rfl, named, on⟩
    exact ⟨List.mem_map_of_mem among, named, kept node among ▸ on⟩
  · rintro ⟨isKey, named, wasOn⟩
    obtain ⟨node, among, rfl⟩ := List.mem_map.mp isKey
    exact ⟨node, among, rfl, named, (kept node among).trans wasOn⟩

/-- It is enough that the states are kept inside an object. -/
theorem keepsState_iff {before : List InstanceNode} {node : InstanceNode} :
    KeepsState before node ↔
      node.enabled = keyEnabled before node.key ∧
        (node.type = .object → ∀ field ∈ before.find? (·.key == node.key), field.type = .object →
          AllKeepState field.children node.children) := by
  obtain ⟨key, type, value, enabled, children, childDef, info⟩ := node
  refine and_congr_right fun _ => imp_congr_right fun isObject => ?_
  subst isObject
  exact forall₂_congr fun field _ => imp_congr_right fun _ =>
    and_iff_right_of_imp sendsEnabled_of_allKeepState

variable [PatternEngine]

section

variable (wildcard : String)

/-- Whether the field of a member is on exactly if its name was. The field of a scalar is as the one
that was matched with it, by its key or else by a template. The field of any other value is on. -/
def carriesOwn (before : List InstanceNode) (name : String) : Json → Bool
  | .null | .arr _ | .obj _ => keyEnabled before name
  | _ =>
      (before.find? (·.key == name)).isSome ||
        ((before.find? (describes wildcard name)).map (·.enabled)).getD true

mutual

/-- The same for the member and, if an object with its name was there before, for all members inside
it. -/
def carriesState (before : List InstanceNode) (name : String) : Json → Bool
  | .obj members =>
      keyEnabled before name &&
        (before.find? (·.key == name)).all fun field =>
          field.type != .object || carriesStates field.children members
  | value => carriesOwn wildcard before name value

def carriesStates (before : List InstanceNode) : List (String × Json) → Bool
  | [] => true
  | (name, value) :: rest => carriesState before name value && carriesStates before rest

end

theorem matching?_of_find? {before : List InstanceNode} {name : String} {field : InstanceNode}
    (found : before.find? (·.key == name) = some field) :
    matching? wildcard before name = some field := by
  rw [matching?, found]
  rfl

theorem enabled_hydrateIn_iff (before : List InstanceNode) (member : String × Json) :
    (hydrateIn wildcard before member).enabled = keyEnabled before member.1 ↔
      carriesOwn wildcard before member.1 member.2 = true := by
  obtain ⟨name, value⟩ := member
  have scalar :
      ((matching? wildcard before name).map (·.enabled)).getD true = keyEnabled before name ↔
        ((before.find? (·.key == name)).isSome ||
          ((before.find? (describes wildcard name)).map (·.enabled)).getD true) = true := by
    rw [matching?, keyEnabled]
    cases before.find? (·.key == name) <;> simp
  cases value with
  | bool _ => exact scalar
  | num _ => exact scalar
  | str _ => exact scalar
  | _ => exact eq_comm

theorem keepsState_of_ne_object (before : List InstanceNode) (member : String × Json)
    (notObject : (hydrateIn wildcard before member).type ≠ .object) :
    KeepsState before (hydrateIn wildcard before member) ↔
      carriesOwn wildcard before member.1 member.2 = true := by
  rw [keepsState_iff, key_hydrateIn, enabled_hydrateIn_iff]
  exact and_iff_left fun isObject => absurd isObject notObject

mutual

theorem keepsState_hydrateField (before : List InstanceNode) (name : String) : (value : Json) →
    (KeepsState before (hydrateField wildcard name (matching? wildcard before name) value) ↔
      carriesState wildcard before name value = true)
  | .null => keepsState_of_ne_object wildcard before (name, .null) nofun
  | .bool value => keepsState_of_ne_object wildcard before (name, .bool value) nofun
  | .num value => keepsState_of_ne_object wildcard before (name, .num value) nofun
  | .str content => by
      refine keepsState_of_ne_object wildcard before (name, .str content) fun isObject => ?_
      -- A text keeps the type that was chosen before, but never the type of an object.
      have isScalar := shape_scalarType
        ((matching? wildcard before name).map (·.type)) (.str content)
      rw [show scalarType _ (.str content) = .object from isObject] at isScalar
      cases isScalar
  | .arr items => keepsState_of_ne_object wildcard before (name, .arr items) nofun
  | .obj members => by
      have inside :
          (∀ field ∈ before.find? (·.key == name), field.type = .object →
            AllKeepState field.children (hydrateMembers wildcard
              (((matching? wildcard before name).map (·.children)).getD []) members)) ↔
            ((before.find? (·.key == name)).all fun field =>
              field.type != .object || carriesStates wildcard field.children members) = true := by
        cases found : before.find? (·.key == name) with
        | none => simp
        | some field =>
            have isInside := allKeepState_hydrateMembers field.children members
            simp only [Option.mem_some_iff, forall_eq', Option.all_some, Bool.or_eq_true, bne_iff_ne]
            rw [matching?_of_find? wildcard found, ← isInside, ← Decidable.imp_iff_not_or]
            rfl
      rw [carriesState, Bool.and_eq_true, ← inside]
      exact keepsState_iff.trans (and_congr eq_comm (imp_iff_right rfl))

/-- The fields that are rebuilt from members keep all states exactly if the members carry them. -/
theorem allKeepState_hydrateMembers (before : List InstanceNode) :
    (members : List (String × Json)) →
      (AllKeepState before (hydrateMembers wildcard before members) ↔
        carriesStates wildcard before members = true)
  | [] => by simp [hydrateMembers, AllKeepState, carriesStates]
  | (name, value) :: rest => by
      rw [hydrateMembers, AllKeepState, carriesStates, Bool.and_eq_true,
        keepsState_hydrateField before name value, allKeepState_hydrateMembers before rest]

end

/-- What is on is sent exactly if all members that have a name carry its state. -/
theorem sendsEnabled_hydrate_iff (before : List InstanceNode) {members : List (String × Json)}
    (distinct : (Entries.names members).Nodup) :
    SendsEnabled before (Entries.names members)
        (payload (hydrateMembers wildcard before members)) ↔
      ∀ member ∈ members, member.1 ≠ "" →
        carriesOwn wildcard before member.1 member.2 = true := by
  rw [payload, sendsEnabled_iff, hydrateMembers_eq_map]
  simp only [List.mem_map, exists_exists_and_eq_and, key_hydrateIn, ← enabled_hydrateIn_iff]
  constructor
  · intro same member among named
    rw [Bool.eq_iff_iff]
    constructor
    · intro on
      exact ((same member.1).mp ⟨member, among, rfl, named, on⟩).2.2
    · intro wasOn
      -- The name is sent by a member with this name, of which there is one only.
      obtain ⟨other, otherAmong, sameName, -, on⟩ :=
        (same member.1).mpr ⟨List.mem_map_of_mem among, named, wasOn⟩
      rwa [List.inj_on_of_nodup_map distinct otherAmong among sameName] at on
  · intro each name
    constructor
    · rintro ⟨member, among, rfl, named, on⟩
      exact ⟨List.mem_map_of_mem among, named, each member among named ▸ on⟩
    · rintro ⟨isName, named, wasOn⟩
      obtain ⟨member, among, rfl⟩ := List.mem_map.mp isName
      exact ⟨member, among, rfl, named, (each member among named).trans wasOn⟩

end

end InstanceNode

/-- The members of an edited body leave all keys on or off, as they were, exactly if they carry their
states, also inside every object that stands where one was. The body that is sent then has a member for
each of the names that is on, exactly if all members at the top that have a name carry its state. -/
theorem states_carried_iff [PatternEngine] (options : CompileOptions) (before : List InstanceNode)
    {members : List (String × Json)} (distinct : (Entries.names members).Nodup) :
    (InstanceNode.AllKeepState before (hydrate options (.obj members) before) ↔
        InstanceNode.carriesStates options.wildcard before members = true) ∧
      (InstanceNode.SendsEnabled before (Entries.names members)
          (payload (hydrate options (.obj members) before)) ↔
        ∀ member ∈ members, member.1 ≠ "" →
          InstanceNode.carriesOwn options.wildcard before member.1 member.2 = true) :=
  ⟨InstanceNode.allKeepState_hydrateMembers options.wildcard before members,
    InstanceNode.sendsEnabled_hydrate_iff options.wildcard before distinct⟩

/-- A form of which the note and the postal code are off. -/
def partlyOff : List InstanceNode :=
  [{ InstanceNode.fresh "note" .text with enabled := false },
    { InstanceNode.fresh "address" .object with
      children := [.fresh "city" .text, { InstanceNode.fresh "zip" .text with enabled := false }] }]

/-- A body with values for all of these, and with a member that is new. -/
def fullBody : List (String × Json) :=
  [("note", .str "late"), ("address", .obj [("zip", .num (.int 8001)), ("city", .null)]),
    ("nick", .null)]

/-- The note and the postal code stay off. -/
theorem states_carried_iff_address :
    (Entries.names fullBody).Nodup ∧
      InstanceNode.AllKeepState partlyOff (hydrate {} (.obj fullBody) partlyOff) ∧
      ∃ sent, payload (hydrate {} (.obj fullBody) partlyOff) = .obj sent ∧
        "note" ∉ Entries.names sent ∧ "nick" ∈ Entries.names sent := by
  have distinct : (Entries.names fullBody).Nodup := by decide
  obtain ⟨keeps, sends⟩ := states_carried_iff {} partlyOff distinct
  obtain ⟨sent, isSent, names⟩ := sends.mpr (by decide)
  exact ⟨distinct, keeps.mpr (by decide), sent, isSent,
    fun member => absurd ((names "note").mp member).2.2 (by decide),
    (names "nick").mpr (by decide)⟩

/-- A form that is off, with a field for every language. -/
def allOff : List InstanceNode :=
  (InstanceNode.defaults ((RuleSet.ofList
    [("note", .text "string"), ("lang_*", .text "string")]).compile {})).map
      fun node => { node with enabled := false }

/-- A field that was off is on when it has no value any more, and a language that is new is off. -/
theorem states_not_carried :
    ¬InstanceNode.AllKeepState allOff (hydrate {} (.obj [("note", .null)]) allOff) ∧
      payload (hydrate {} (.obj [("note", .null)]) allOff) = .obj [("note", .str "")] ∧
      ¬InstanceNode.AllKeepState allOff (hydrate {} (.obj [("lang_en", .str "x")]) allOff) ∧
      payload (hydrate {} (.obj [("lang_en", .str "x")]) allOff) = .obj [] := by
  have keeps_iff := InstanceNode.allKeepState_hydrateMembers "*" allOff
  refine ⟨fun keeps => ?_, by decide +kernel, fun keeps => ?_, by decide +kernel⟩
  · exact absurd ((keeps_iff [("note", .null)]).mp keeps) (by decide +kernel)
  · exact absurd ((keeps_iff [("lang_en", .str "x")]).mp keeps) (by decide +kernel)

end Formwork
