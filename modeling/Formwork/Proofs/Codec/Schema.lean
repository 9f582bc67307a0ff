/-
This file shows what is read from a written schema: its types by their names, its choices with each
name once, and all else as it is.
-/

import Formwork.Proofs.Codec.Parts
import Formwork.Proofs.Schema.Levels

namespace Formwork

namespace SortedEntries

variable {Value : Type}

theorem place_of_largest {name : String} (value : Value) {entries : Entries Value}
    (largest : ∀ other ∈ entries.names, other < name) :
    place name value entries = entries ++ [(name, value)] := by
  induction entries with
  | nil => rfl
  | cons entry rest inductionHypothesis =>
      obtain ⟨other, old⟩ := entry
      rw [Entries.names, List.map_cons, List.forall_mem_cons] at largest
      rw [place, if_neg (Std.ne_of_lt largest.1), if_neg (Std.not_gt_of_lt largest.1),
        inductionHypothesis largest.2, List.cons_append]

theorem foldl_put_of_sorted {before after : Entries Value}
    (sorted : (before ++ after).names.Pairwise (· < ·))
    (beforeSorted : before.names.Pairwise (· < ·)) :
    after.foldl (fun entries (name, value) => entries.put name value) ⟨before, beforeSorted⟩ =
      (⟨before ++ after, sorted⟩ : SortedEntries Value) := by
  induction after generalizing before with
  | nil => simp
  | cons entry rest inductionHypothesis =>
      obtain ⟨name, value⟩ := entry
      have largest : ∀ other ∈ before.names, other < name := by
        intro other member
        rw [Entries.names, List.map_append, List.pairwise_append] at sorted
        exact sorted.2.2 other member name List.mem_cons_self
      have sortedNext : (before ++ [(name, value)]).names.Pairwise (· < ·) := by
        rw [Entries.names, List.map_append, List.pairwise_append]
        refine ⟨beforeSorted, List.pairwise_singleton _ _, ?_⟩
        intro other member last isLast
        rw [List.mem_singleton.mp isLast]
        exact largest other member
      have placed : put name value ⟨before, beforeSorted⟩ =
          (⟨before ++ [(name, value)], sortedNext⟩ : SortedEntries Value) := by
        simp only [put, place_of_largest value largest]
      have sortedAfter : ((before ++ [(name, value)]) ++ rest).names.Pairwise (· < ·) := by
        simpa using sorted
      rw [List.foldl_cons]
      change rest.foldl _ (put name value ⟨before, beforeSorted⟩) = _
      rw [placed, inductionHypothesis sortedAfter]
      simp

/-- Sorted entries are sorted already. -/
theorem ofList_entries (sorted : SortedEntries Value) : ofList sorted.entries = sorted :=
  foldl_put_of_sorted (by simpa using sorted.sorted) List.Pairwise.nil

end SortedEntries

namespace FieldType

/-- The type that the name of a type stands for. -/
def readBack (type : FieldType) : FieldType :=
  ofName type.name

theorem ofDocument?_toJson (type : FieldType) :
    ofDocument? type.toJson.document = some type.readBack := rfl

end FieldType

namespace Conditional

theorem ofDocument?_toJson (clause : Conditional) :
    ofDocument? clause.toJson.document = some clause := by
  obtain ⟨rule, field, fields, value⟩ := clause
  have distinct : (Entries.names (("rule", Json.str rule) ::
      Json.optionalMember "field" .str field ++ Json.optionalMember "fields" .ofTexts fields ++
        Json.optionalMember "value" .str value)).Nodup := by
    cases field <;> cases fields <;> cases value <;>
      simp [Entries.names, Json.optionalMember]
  rw [toJson, Json.document, ofDocument?, Document.record?_memberDocuments names distinct]
  simp [Entries.find?, Entries.find?_append, Json.find?_optionalMember]

end Conditional

namespace Constraints

theorem dimensions?_dimensionsToJson (dimensions : SortedEntries String) :
    dimensions? (dimensionsToJson dimensions).document = some dimensions := by
  rw [dimensionsToJson, Json.document, dimensions?, Document.entries?,
    Document.allMembers?_map Document.text?_str]
  simp [SortedEntries.ofList_entries]

theorem nullable?_dimensions (part : Option (SortedEntries String)) :
    Document.nullable? dimensions? (Json.ofOption dimensionsToJson part).document = some part := by
  rw [Document.nullable?_ofOption dimensions?_dimensionsToJson (by simp [dimensionsToJson]),
    Option.map_id']

theorem list?_conditionals (clauses : List Conditional) :
    Document.list? Conditional.ofDocument? (Json.arr (clauses.map Conditional.toJson)).document =
      some clauses := by
  rw [Document.list?_arr Conditional.ofDocument?_toJson, List.map_id']

/-- The constraints are read from any record that has their members. -/
theorem ofRecord?_of_members {part : Document.Record} {constraints : Constraints}
    (has : ∀ member ∈ constraints.members, part member.1 = some member.2.document) :
    ofRecord? part = some constraints := by
  simp only [members, List.forall_mem_cons] at has
  simp [ofRecord?, has, nullable?_dimensions, list?_conditionals]

end Constraints

namespace FieldInfo

/-- What is read from what is written about a field. -/
def readBack (info : FieldInfo) : FieldInfo :=
  { info with
    type := info.type.readBack
    childType := info.childType.map FieldType.readBack
    options := info.options.map (·.map Json.settled) }

theorem nodup_names_membersWith (info : FieldInfo) (schema : Option Json) :
    (Entries.names (info.membersWith (Json.optionalMember "schema" id schema))).Nodup := by
  have inOrder : (Entries.names (info.membersWith (Json.optionalMember "schema" id schema))).Sublist
      SchemaNode.names := by
    cases schema <;> cases childType : info.childType <;> cases description : info.description <;>
      simp [membersWith, Constraints.members, Json.optionalMember, Entries.names, SchemaNode.names,
        childType, description]
  exact inOrder.nodup (by decide)

theorem nullable?_options (part : Option (List Json)) :
    Document.nullable? (Document.list? Document.value?) (Json.ofOption .arr part).document =
      some (part.map (·.map Json.settled)) := by
  apply Document.nullable?_ofOption
  · exact Document.list?_value
  · simp

theorem orElse_childType (part : Option FieldType) :
    Document.orElse none (Document.nullable? FieldType.ofDocument?)
        (part.map (Json.document ∘ FieldType.toJson)) =
      some (part.map FieldType.readBack) :=
  Document.orElse_nullable?_map FieldType.ofDocument?_toJson (by simp [FieldType.toJson]) part

theorem ofDocument?_membersWith (info : FieldInfo) (schema : Option Json) :
    ofDocument?
        (.obj (Json.memberDocuments
          (info.membersWith (Json.optionalMember "schema" id schema)))) =
      some info.readBack := by
  have constraints : Constraints.ofRecord? (fun name =>
      (Entries.find? name (info.membersWith (Json.optionalMember "schema" id schema))).map
        Json.document) = some info.toConstraints := by
    apply Constraints.ofRecord?_of_members
    simp [membersWith, Constraints.members, Entries.find?]
  rw [ofDocument?, Document.record?_memberDocuments _ (nodup_names_membersWith info schema)]
  simp only [constraints, Option.bind_eq_bind, Option.bind_some]
  simp [membersWith, Constraints.members, Entries.find?, Entries.find?_append,
    Json.find?_optionalMember, FieldType.ofDocument?_toJson, nullable?_options, orElse_childType,
    readBack]

end FieldInfo

namespace SchemaNode

mutual

/-- What is read from a written node. -/
def readBack : SchemaNode → SchemaNode
  | ⟨info, none⟩ => ⟨info.readBack, none⟩
  | ⟨info, some nodes⟩ => ⟨info.readBack, some (readBackAll nodes)⟩

def readBackAll : List SchemaNode → List SchemaNode
  | [] => []
  | node :: rest => readBack node :: readBackAll rest

end

theorem readBackAll_eq_map (nodes : List SchemaNode) : readBackAll nodes = nodes.map readBack := by
  induction nodes with
  | nil => rfl
  | cons node rest inductionHypothesis => rw [readBackAll, inductionHypothesis, List.map_cons]

theorem readBack_eq (node : SchemaNode) :
    readBack node = ⟨node.info.readBack, node.schema.map (·.map readBack)⟩ := by
  obtain ⟨info, _ | nodes⟩ := node
  · rfl
  · rw [readBack, readBackAll_eq_map, Option.map_some]

theorem toJson_eq (node : SchemaNode) :
    toJson node =
      .obj (node.info.membersWith
        (Json.optionalMember "schema" id
          (node.schema.map fun nodes => .arr (nodes.map toJson)))) := by
  obtain ⟨info, _ | nodes⟩ := node
  · rw [toJson]
    rfl
  · rw [toJson, nodesToJson_eq_map]
    rfl

theorem ofDocuments?_map {nodes : List SchemaNode}
    (law : ∀ node ∈ nodes, ofDocument? node.toJson.document = some node.readBack) :
    ofDocuments? (Json.itemDocuments (nodes.map toJson)) = some (nodes.map readBack) := by
  induction nodes with
  | nil => rfl
  | cons node rest inductionHypothesis =>
      rw [List.forall_mem_cons] at law
      rw [List.map_cons, Json.itemDocuments, ofDocuments?, law.1, inductionHypothesis law.2]
      rfl

theorem schemaMember?_memberDocuments (members : List (String × Json)) :
    schemaMember? (Json.memberDocuments members) =
      match Entries.find? "schema" members with
      | none => some none
      | some value => schema? value.document := by
  induction members with
  | nil => rfl
  | cons member rest inductionHypothesis =>
      obtain ⟨name, value⟩ := member
      by_cases here : name = "schema" <;>
        simp [Json.memberDocuments, schemaMember?, Entries.find?, here, inductionHypothesis]

theorem find?_schema_membersWith (info : FieldInfo) (schema : Option Json) :
    Entries.find? "schema" (info.membersWith (Json.optionalMember "schema" id schema)) =
      schema := by
  simp [FieldInfo.membersWith, Constraints.members, Entries.find?, Entries.find?_append,
    Json.find?_optionalMember]

/-- A written node is read as the node with types by their names and settled choices. -/
theorem ofDocument?_toJson (node : SchemaNode) :
    ofDocument? node.toJson.document = some node.readBack := by
  induction node using SchemaNode.induction with
  | inside node inductionHypothesis =>
      rw [toJson_eq, Json.document, ofDocument?, FieldInfo.ofDocument?_membersWith,
        schemaMember?_memberDocuments, find?_schema_membersWith, readBack_eq]
      cases inside : node.schema with
      | none => rfl
      | some nodes =>
          have law : ∀ child ∈ nodes, ofDocument? child.toJson.document = some child.readBack := by
            intro child member
            apply inductionHypothesis child
            rwa [children, inside]
          simp only [Option.map_some, Json.document, schema?, ofDocuments?_map law]
          rfl

theorem listOfDocument?_nodesToJson (nodes : List SchemaNode) :
    listOfDocument? (Json.arr (nodesToJson nodes)).document = some (nodes.map readBack) := by
  rw [Json.document, listOfDocument?, nodesToJson_eq_map]
  exact ofDocuments?_map fun node _ => ofDocument?_toJson node

end SchemaNode

end Formwork
