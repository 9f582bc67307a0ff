/-
This file compares the two ways from an example to a schema: what is inferred from it, and what is
assembled from its entries at their paths. They have the same outline exactly if no list of scalars
in the example stands at a grouping key.
-/

import Formwork.Proofs.Schema.Flattened

namespace Formwork

namespace Json

mutual

/-- No list starts with a list, at any level. -/
def startsFlat : Json → Bool
  | .arr items =>
      (match items.head? with
        | some (.arr _) => false
        | _ => true) && itemsStartFlat items
  | .obj members => membersStartFlat members
  | _ => true

def itemsStartFlat : List Json → Bool
  | [] => true
  | item :: rest => startsFlat item && itemsStartFlat rest

def membersStartFlat : List (String × Json) → Bool
  | [] => true
  | (_, value) :: rest => startsFlat value && membersStartFlat rest

end

mutual

/-- A list that starts with a scalar stands at a grouping key, in what describes a value at a key. -/
def groupsAt (options : CompileOptions) (key : String) : Json → Bool
  | .obj members => membersGroup options members
  | .arr items =>
      (items.head?.any (!SchemaNode.isNested ·) && options.isGroupingKey key) ||
        firstGroups options items
  | _ => false

def firstGroups (options : CompileOptions) : List Json → Bool
  | [] => false
  | first :: _ => groupsAt options options.wildcard first

def membersGroup (options : CompileOptions) : List (String × Json) → Bool
  | [] => false
  | (name, value) :: rest => groupsAt options name value || membersGroup options rest

end

theorem groupsAt_of_scalar (options : CompileOptions) (key : String) {value : Json}
    (isScalar : SchemaNode.isNested value = false) : groupsAt options key value = false := by
  cases value with
  | obj => cases isScalar
  | arr => cases isScalar
  | null => rfl
  | bool => rfl
  | num => rfl
  | str => rfl

end Json

/-- What is told of a field without its rules, its choices and its description. -/
def FieldInfo.outline (info : FieldInfo) : FieldInfo :=
  { key := info.key, type := info.type, childType := info.childType, isList := info.isList,
    isPattern := info.isPattern }

namespace SchemaNode

mutual

/-- The node with nothing but keys, types, nesting, lists and templates, at every level. -/
def outline : SchemaNode → SchemaNode
  | ⟨info, none⟩ => ⟨info.outline, none⟩
  | ⟨info, some nodes⟩ => ⟨info.outline, some (outlines nodes)⟩

def outlines : List SchemaNode → List SchemaNode
  | [] => []
  | node :: rest => outline node :: outlines rest

end

end SchemaNode

namespace PathTree

section

variable {options : CompileOptions}

theorem item?_ofObject {members : List (String × Json)}
    (named : Json.MembersEachName (· ≠ options.wildcard) members) (key : String)
    (leaf : Option SchemaNode) :
    item? options ⟨key, leaf, ofMembers options.wildcard members⟩ = none := by
  rw [item?, List.find?_eq_none]
  intro branch member isWildcard
  have isName : branch.key ∈ Entries.names members := by
    rw [← keys_ofMembers]
    exact List.mem_map_of_mem member
  obtain ⟨field, among, same⟩ := List.mem_map.mp isName
  rw [Json.membersEachName_iff] at named
  exact (named field among).1 (same.trans (of_decide_eq_true isWildcard))

/-- The branch of an object becomes an object of what its members become. -/
theorem outline_ofObject {members : List (String × Json)}
    (named : Json.MembersEachName (· ≠ options.wildcard) members) (key : String) :
    SchemaNode.outline (node options (ofValue options.wildcard key (.obj members))) =
      ⟨{ key := key, type := .object, isPattern := Text.isTemplate options.wildcard key },
        some (SchemaNode.outlines (nodes options (ofMembers options.wildcard members)))⟩ := by
  cases members with
  | nil => rfl
  | cons member rest =>
      rw [ofValue, node_of_fields (item?_ofObject named _ _) (List.cons_ne_nil _ _)]
      rfl

theorem item?_ofItem (key : String) (first : Json) (rest : List Json) :
    item? options (ofValue options.wildcard key (.arr (first :: rest))) =
      some (ofValue options.wildcard options.wildcard first) := by
  rw [item?, ofValue, ofFirst, List.find?_cons_of_pos]
  rw [key_ofValue]
  exact decide_eq_true rfl

theorem ofValue_of_scalar (wildcard key : String) {value : Json}
    (isScalar : SchemaNode.isNested value = false) :
    ofValue wildcard key value = ⟨key, some (.typed key (.ofExample value)), []⟩ := by
  cases value with
  | obj => cases isScalar
  | arr => cases isScalar
  | null => rfl
  | bool => rfl
  | num => rfl
  | str => rfl

/-- The branch of a list of scalars becomes what is inferred from the list, unless it stands at a
grouping key, which makes it an object. -/
theorem outline_ofScalars (key : String) {first : Json} (rest : List Json)
    (isScalar : SchemaNode.isNested first = false) :
    SchemaNode.outline (node options (ofValue options.wildcard key (.arr (first :: rest)))) =
      if options.isGroupingKey key then
        ⟨{ key := key, type := .object, isPattern := Text.isTemplate options.wildcard key }, some []⟩
      else
        ⟨{ key := key, type := .array, childType := some (.ofExample first),
            isPattern := Text.isTemplate options.wildcard key }, none⟩ := by
  have notObject : FieldType.ofExample first ≠ .object := by cases first <;> nofun
  have start : startInfo options (ofValue options.wildcard key (.arr (first :: rest))) =
      { key := key, type := .array, isPattern := Text.isTemplate options.wildcard key } := by
    simp only [startInfo, PathTree.start, ofValue, List.head?_cons, Option.any_some, isScalar]
    rfl
  rw [node_of_item (item?_ofItem key first rest), start, ofValue_of_scalar _ _ isScalar]
  -- nothing stands behind the wildcard, so the type of the items decides
  change SchemaNode.outline
    (if FieldType.ofExample first = .object then _
      else if options.isGroupingKey key then _ else _) = _
  rw [if_neg notObject]
  split <;> rfl

/-- The branch of a list of objects becomes an object that stands for a list. -/
theorem outline_ofObjects (key : String) (members : List (String × Json)) (rest : List Json) :
    SchemaNode.outline (node options (ofValue options.wildcard key (.arr (.obj members :: rest)))) =
      ⟨{ key := key, type := .object, isList := true,
          isPattern := Text.isTemplate options.wildcard key },
        some (SchemaNode.outlines (nodes options (ofMembers options.wildcard members)))⟩ := by
  rw [node_of_item (item?_ofItem key _ rest)]
  cases members with
  | nil => rfl
  | cons member others => rfl

variable (options)

theorem outline_ofScalars_iff (key : String) {first : Json} (rest : List Json)
    (isScalar : SchemaNode.isNested first = false) :
    SchemaNode.outline (node options (ofValue options.wildcard key (.arr (first :: rest)))) =
        SchemaNode.outline (SchemaNode.ofMember options.wildcard key (.arr (first :: rest))) ↔
      Json.groupsAt options key (.arr (first :: rest)) = false := by
  have inferred : SchemaNode.outline
        (SchemaNode.ofMember options.wildcard key (.arr (first :: rest))) =
      ⟨{ key := key, type := .array, childType := some (.ofExample first),
          isPattern := Text.isTemplate options.wildcard key }, none⟩ := by
    simp only [SchemaNode.ofMember, List.head?_cons, isScalar]
    rfl
  have groups : Json.groupsAt options key (.arr (first :: rest)) = options.isGroupingKey key := by
    simp [Json.groupsAt, Json.firstGroups, isScalar, Json.groupsAt_of_scalar]
  rw [outline_ofScalars key rest isScalar, inferred, groups]
  cases options.isGroupingKey key with
  | false => exact iff_of_true rfl rfl
  | true => exact iff_of_false (by simp) (by simp)

mutual

/-- The branch of a value becomes what is inferred from the value exactly if no list of scalars in it
is grouped. -/
theorem outline_ofValue_iff (key : String) :
    (value : Json) → value.startsFlat → value.EachName (· ≠ options.wildcard) →
      (SchemaNode.outline (node options (ofValue options.wildcard key value)) =
          SchemaNode.outline (SchemaNode.ofMember options.wildcard key value) ↔
        value.groupsAt options key = false)
  | .obj members, flat, named => by
      have inside := outlines_ofMembers_iff members flat named
      rw [outline_ofObject named, Json.groupsAt, ← inside]
      exact ⟨fun same => Option.some.inj (SchemaNode.mk.inj same).2,
        fun same => congrArg (fun nodes => SchemaNode.mk _ (some nodes)) same⟩
  | .arr [], _, _ => iff_of_true rfl rfl
  | .arr (.obj members :: rest), flat, named => by
      rw [Json.startsFlat, Json.itemsStartFlat, Json.startsFlat, Bool.and_eq_true,
        Bool.and_eq_true] at flat
      have inside := outlines_ofMembers_iff members flat.2.1 named.1
      rw [outline_ofObjects]
      exact ⟨fun same => inside.mp (Option.some.inj (SchemaNode.mk.inj same).2),
        fun ungrouped => congrArg (fun nodes => SchemaNode.mk _ (some nodes)) (inside.mpr ungrouped)⟩
  | .arr (.arr _ :: _), flat, _ => by cases flat
  | .arr (.null :: rest), _, _ => outline_ofScalars_iff options key rest rfl
  | .arr (.bool _ :: rest), _, _ => outline_ofScalars_iff options key rest rfl
  | .arr (.num _ :: rest), _, _ => outline_ofScalars_iff options key rest rfl
  | .arr (.str _ :: rest), _, _ => outline_ofScalars_iff options key rest rfl
  | .null, _, _ => iff_of_true rfl rfl
  | .bool _, _, _ => iff_of_true rfl rfl
  | .num _, _, _ => iff_of_true rfl rfl
  | .str _, _, _ => iff_of_true rfl rfl

theorem outlines_ofMembers_iff :
    (members : List (String × Json)) → Json.membersStartFlat members →
      Json.MembersEachName (· ≠ options.wildcard) members →
      (SchemaNode.outlines (nodes options (ofMembers options.wildcard members)) =
          SchemaNode.outlines (SchemaNode.ofMembers options.wildcard members) ↔
        Json.membersGroup options members = false)
  | [], _, _ => iff_of_true rfl rfl
  | (name, value) :: rest, flat, named => by
      rw [Json.membersStartFlat, Bool.and_eq_true] at flat
      rw [ofMembers, nodes, SchemaNode.ofMembers, SchemaNode.outlines, SchemaNode.outlines,
        List.cons.injEq, outline_ofValue_iff name value flat.1 named.2.1,
        outlines_ofMembers_iff rest flat.2 named.2.2, Json.membersGroup, Bool.or_eq_false_iff]

end

end

end PathTree

/-- What is inferred from an object and what is assembled from its entries have the same outline
exactly if no list that starts with a scalar stands at a grouping key. -/
theorem outlines_assemble_flatten_iff (options : CompileOptions)
    (ofWildcard : IsSegment options.wildcard) {members : List (String × Json)}
    (distinct : Json.NamesDistinct (.obj members))
    (named : Json.EachName (fun name => IsSegment name ∧ name ≠ options.wildcard) (.obj members))
    (flat : Json.startsFlat (.obj members)) :
    SchemaNode.outlines (assemble options (Json.flatten options.wildcard members)) =
        SchemaNode.outlines (SchemaNode.ofExample options.wildcard (.obj members)) ↔
      Json.membersGroup options members = false := by
  have segments : Json.EachName IsSegment (.obj members) :=
    Json.eachName_mono (fun _ both => both.1) (.obj members) named
  have differ : Json.EachName (· ≠ options.wildcard) (.obj members) :=
    Json.eachName_mono (fun _ both => both.2) (.obj members) named
  have grown := PathTree.ofEntries_flatten ofWildcard distinct segments
  rw [PathTree.ofEntries] at grown
  rw [assemble, grown]
  exact PathTree.outlines_ofMembers_iff options members flat differ

/-- Templates, empty values, a list of objects at a grouping key and a list in a later item. -/
def catalogExample : List (String × Json) :=
  [("lang_*", .obj [("a*b", .null), ("tags", .arr [.str "x", .arr []])]), ("empty", .obj []),
    ("metadata", .arr []),
    ("meta", .arr [.obj [("sku", .num (.int 1)), ("open", .obj [("at", .bool true)])], .arr [.null]]),
    ("rows", .arr [.obj []])]

/-- The catalog has one outline, with lists of objects also where nothing is inside the items. -/
theorem outlines_assemble_flatten_iff_catalog :
    Json.NamesDistinct (.obj catalogExample) ∧
      SchemaNode.outlines (assemble {} (Json.flatten "*" catalogExample)) =
        SchemaNode.outlines (SchemaNode.ofExample "*" (.obj catalogExample)) ∧
      (SchemaNode.ofExample "*" (.obj catalogExample)).map
          (fun node => (node.key, node.info.type, node.info.isList, node.info.isPattern)) =
        [("lang_*", .object, false, true), ("empty", .object, false, false),
          ("metadata", .array, false, false), ("meta", .object, true, false),
          ("rows", .object, true, false)] := by
  have distinct : Json.NamesDistinct (.obj catalogExample) := by decide
  have sameExactly :=
    outlines_assemble_flatten_iff {} (by decide) distinct (by decide) (by decide)
  exact ⟨distinct, sameExactly.mpr (by decide), by decide⟩

/-- A list of numbers at a grouping key is inferred as a list and assembled as a free-form object. -/
theorem grouped_numbers_differ :
    IsSegment "*" ∧ Json.NamesDistinct (.obj [("meta", .arr [.num (.int 1)])]) ∧
      Json.EachName (fun name => IsSegment name ∧ name ≠ "*")
        (.obj [("meta", .arr [.num (.int 1)])]) ∧
      Json.startsFlat (.obj [("meta", .arr [.num (.int 1)])]) ∧
      SchemaNode.outlines (assemble {} (Json.flatten "*" [("meta", .arr [.num (.int 1)])])) =
        [⟨{ key := "meta", type := .object }, some []⟩] ∧
      SchemaNode.outlines (assemble {} (Json.flatten "*" [("meta", .arr [.num (.int 1)])])) ≠
        SchemaNode.outlines (SchemaNode.ofExample "*" (.obj [("meta", .arr [.num (.int 1)])])) := by
  decide +kernel

end Formwork
