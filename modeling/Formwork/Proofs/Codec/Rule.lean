/-
This file shows that rules which were read are read again from what they are written as: every JSON
value is read as a declaration, and what is written of it is read as the same one.
-/

import Formwork.Codec.Rule
import Formwork.Proofs.Codec.Parts
import Formwork.Schema.Tree

namespace Formwork

namespace EnumCase

/-- What is read from a written case. A null that is written for the value is read as none. -/
def readBack (enumCase : EnumCase) : EnumCase :=
  { enumCase with value := (enumCase.value.filter (· ≠ .null)).map Json.settled }

theorem orElse_nullable?_value (part : Option Json) :
    Document.orElse none (Document.nullable? Document.value?) (part.map Json.document) =
      some ((part.filter (· ≠ .null)).map Json.settled) := by
  cases part with
  | none => rfl
  | some value =>
      by_cases isNull : value = .null
      · rw [isNull]
        rfl
      · rw [Option.map_some, Document.orElse_some,
          Document.nullable?_of_ne_null (Json.document_ne_null isNull), Json.value?_document,
          Option.filter_some, if_pos (decide_eq_true isNull)]
        rfl

theorem ofDocument?_toJson (enumCase : EnumCase) :
    ofDocument? enumCase.toJson.document = some enumCase.readBack := by
  have distinct : (Entries.names (("name", Json.str enumCase.name) ::
      Json.optionalMember "value" id enumCase.value)).Nodup := by
    cases enumCase.value <;> simp [Entries.names, Json.optionalMember]
  rw [toJson, Json.document, ofDocument?, Document.record?_memberDocuments names distinct]
  simp [Entries.find?, Json.find?_optionalMember, orElse_nullable?_value, readBack]

/-- A value that was read for a part is neither null nor changed when it is read again. -/
theorem settled_of_orElse_value {part : Option Document} {value : Option Json}
    (read : Document.orElse none (Document.nullable? Document.value?) part = some value) :
    (value.filter (· ≠ .null)).map Json.settled = value := by
  cases part with
  | none =>
      cases read
      rfl
  | some document =>
      by_cases isNull : document = .null
      · rw [isNull] at read
        cases read
        rfl
      · rw [Document.orElse_some, Document.nullable?_of_ne_null isNull] at read
        obtain ⟨own, ownRead, rfl⟩ := Option.map_eq_some_iff.mp read
        have notNull : own ≠ .null := by
          rintro rfl
          cases document <;> simp_all [Document.value?]
        rw [Option.filter_some, if_pos (decide_eq_true notNull), Option.map_some,
          Document.settled_of_value? ownRead]

theorem readBack_of_ofDocument? {document : Document} {enumCase : EnumCase}
    (read : ofDocument? document = some enumCase) : enumCase.readBack = enumCase := by
  simp only [ofDocument?, Option.bind_eq_bind, Option.bind_eq_some_iff, Option.some.injEq] at read
  obtain ⟨part, -, name, -, value, valueRead, rfl⟩ := read
  rw [readBack, settled_of_orElse_value valueRead]

theorem map_readBack_of_orElse {part : Option Document} {cases : List EnumCase}
    (read : Document.orElse [] (Document.list? ofDocument?) part = some cases) :
    cases.map readBack = cases := by
  cases part with
  | none =>
      cases read
      rfl
  | some document => exact Document.map_of_list? readBack_of_ofDocument? read

theorem list?_toJson (cases : List EnumCase) :
    Document.list? ofDocument? (Json.arr (cases.map toJson)).document =
      some (cases.map readBack) :=
  Document.list?_arr ofDocument?_toJson cases

end EnumCase

namespace EnumType

/-- What is read from a written enumeration. -/
def readBack (type : EnumType) : EnumType :=
  { type with cases := type.cases.map EnumCase.readBack }

theorem ofDocument?_toJson (type : EnumType) :
    ofDocument? type.toJson.document = some type.readBack := by
  have distinct : (Entries.names [("name", Json.str type.name),
      ("cases", .arr (type.cases.map EnumCase.toJson))]).Nodup := by
    simp [Entries.names]
  rw [toJson, Json.document, ofDocument?, Document.record?_memberDocuments names distinct]
  simp [Entries.find?, EnumCase.list?_toJson, readBack]

theorem readBack_of_ofDocument? {document : Document} {type : EnumType}
    (read : ofDocument? document = some type) : type.readBack = type := by
  simp only [ofDocument?, Option.bind_eq_bind, Option.bind_eq_some_iff, Option.some.injEq] at read
  obtain ⟨part, -, name, -, cases, casesRead, rfl⟩ := read
  rw [readBack, EnumCase.map_readBack_of_orElse casesRead]

end EnumType

namespace RuleObject

/-- What is read from a written rule object. -/
def readBack : RuleObject → RuleObject
  | closure => closure
  | oneOf values => oneOf (values.map Json.settled)
  | enum type => enum (type.map EnumType.readBack)
  | enumRef name cases => enumRef name (cases.map EnumCase.readBack)
  | named className name display => named className name display

/-- A rule object is written as an object by distinct names. -/
theorem toJson_cases (rule : RuleObject) :
    ∃ members, rule.toJson = .obj members ∧ (Entries.names members).Nodup := by
  cases rule
  all_goals exact ⟨_, rfl, by simp [Entries.names]⟩

theorem kind?_str (name : String) : kind? (Json.str name).document = some name := rfl

theorem ofDocument?_toJson (rule : RuleObject) :
    ofDocument? rule.toJson.document = some rule.readBack := by
  obtain ⟨members, isObject, distinct⟩ := toJson_cases rule
  rw [isObject, Json.document, ofDocument?]
  simp only [ofDocument?.members?, Option.bind_eq_bind, Option.bind_some,
    Document.record?_memberDocuments _ distinct]
  cases rule with
  | closure =>
      cases isObject
      rfl
  | oneOf values =>
      cases isObject
      simp [Entries.find?, kind?_str, Document.list?_value, readBack]
  | enum type =>
      cases isObject
      have typeRead := Document.nullable?_ofOption EnumType.ofDocument?_toJson
        (by simp [EnumType.toJson]) type
      simp [Entries.find?, kind?_str, typeRead, readBack]
  | enumRef name cases =>
      cases isObject
      simp [Entries.find?, kind?_str, EnumCase.list?_toJson, readBack]
  | named className name display =>
      cases isObject
      simp [Entries.find?, kind?_str, readBack]

theorem readBack_of_ofDocument? {document : Document} {rule : RuleObject}
    (read : ofDocument? document = some rule) : rule.readBack = rule := by
  simp only [ofDocument?, Option.bind_eq_bind, Option.bind_eq_some_iff] at read
  obtain ⟨members, -, kindPart, -, kind, -, read⟩ := read
  -- the kind that was read tells which members were read behind it
  split at read
  case h_1 =>
      cases read
      rfl
  case h_2 =>
      simp only [Option.bind_eq_some_iff, Option.some.injEq] at read
      obtain ⟨part, -, values, ⟨valuesPart, -, valuesRead⟩, rfl⟩ := read
      rw [readBack, Document.map_of_list? Document.settled_of_value? valuesRead]
  case h_3 =>
      simp only [Option.bind_eq_some_iff, Option.some.injEq] at read
      obtain ⟨part, -, type, typeRead, rfl⟩ := read
      have sameType := Document.of_orElse_nullable? EnumType.readBack_of_ofDocument? typeRead
      cases type with
      | none => rfl
      | some type => rw [readBack, Option.map_some, sameType type rfl]
  case h_4 =>
      simp only [Option.bind_eq_some_iff, Option.some.injEq] at read
      obtain ⟨part, -, name, -, cases, casesRead, rfl⟩ := read
      rw [readBack, EnumCase.map_readBack_of_orElse casesRead]
  case h_5 =>
      simp only [Option.bind_eq_some_iff, Option.some.injEq] at read
      obtain ⟨part, -, className, -, name, -, display, -, rfl⟩ := read
      rfl
  case h_6 => cases read

/-- A rule object that was read is read again from what it is written as. -/
theorem ofDocument?_toJson_of_read {document : Document} {rule : RuleObject}
    (read : ofDocument? document = some rule) :
    ofDocument? rule.toJson.document = some rule := by
  rw [ofDocument?_toJson, readBack_of_ofDocument? read]

end RuleObject

namespace Declaration

/-- What is read from an object: a rule object if one can be read, else the object itself. -/
theorem ofDocument?_obj (members : List (String × Json)) :
    ofDocument? (Json.obj members).document =
      some (match RuleObject.ofDocument? (Json.obj members).document with
        | some rule => object rule
        | none => unknown (Json.obj members).settled) := by
  have whole := Json.value?_document (.obj members)
  rw [Json.document] at whole ⊢
  rw [ofDocument?, whole]
  rfl

theorem ofDocument?_object {rule : RuleObject}
    (again : RuleObject.ofDocument? rule.toJson.document = some rule) :
    ofDocument? (object rule).toJson.document = some (object rule) := by
  obtain ⟨members, isObject, -⟩ := RuleObject.toJson_cases rule
  rw [isObject] at again
  rw [toJson, isObject, ofDocument?_obj, again]

mutual

/-- Every value is read as a declaration, which is read again from what it is written as. A declaration
without rule objects is written as the value that it was read from. -/
theorem exists_ofDocument? :
    (value : Json) → value.NamesDistinct →
      ∃ declaration, ofDocument? value.document = some declaration ∧
        (declaration.objects = [] → declaration.toJson = value) ∧
        ofDocument? declaration.toJson.document = some declaration
  | .null, _ => ⟨absent, rfl, fun _ => rfl, rfl⟩
  | .bool flag, _ => ⟨bool flag, rfl, fun _ => rfl, rfl⟩
  | .num value, _ => ⟨number value, rfl, fun _ => rfl, rfl⟩
  | .str rules, _ => ⟨text rules, rfl, fun _ => rfl, rfl⟩
  | .arr items, distinct => by
      obtain ⟨declarations, read, written, again⟩ := exists_ofDocuments? items distinct
      refine ⟨list declarations, ?_, fun noObjects => ?_, ?_⟩
      · rw [Json.document, ofDocument?, read]
        rfl
      · rw [toJson, written noObjects]
      · rw [toJson, Json.document, ofDocument?, again]
        rfl
  | .obj members, distinct => by
      have read := ofDocument?_obj members
      rw [Json.settled_of_namesDistinct (.obj members) distinct] at read
      cases isRule : RuleObject.ofDocument? (Json.obj members).document with
      | none =>
          rw [isRule] at read
          exact ⟨unknown (.obj members), read, fun _ => rfl, read⟩
      | some rule =>
          rw [isRule] at read
          exact ⟨object rule, read, nofun,
            ofDocument?_object (RuleObject.ofDocument?_toJson_of_read isRule)⟩

theorem exists_ofDocuments? :
    (items : List Json) → Json.ItemsDistinct items →
      ∃ declarations, ofDocuments? (Json.itemDocuments items) = some declarations ∧
        (itemObjects declarations = [] → itemsToJson declarations = items) ∧
        ofDocuments? (Json.itemDocuments (itemsToJson declarations)) = some declarations
  | [], _ => ⟨[], rfl, fun _ => rfl, rfl⟩
  | item :: rest, distinct => by
      obtain ⟨declaration, read, written, again⟩ := exists_ofDocument? item distinct.1
      obtain ⟨declarations, restRead, restWritten, restAgain⟩ := exists_ofDocuments? rest distinct.2
      refine ⟨declaration :: declarations, ?_, fun noObjects => ?_, ?_⟩
      · rw [Json.itemDocuments, ofDocuments?, read, restRead]
        rfl
      · rw [itemObjects, List.append_eq_nil_iff] at noObjects
        rw [itemsToJson, written noObjects.1, restWritten noObjects.2]
      · rw [itemsToJson, Json.itemDocuments, ofDocuments?, again, restAgain]
        rfl

end

end Declaration

namespace RuleSet

theorem entries_ofList (entries : List (String × Declaration)) :
    (ofList entries).entries = Entries.settle entries :=
  (List.foldl_hom RuleSet.entries fun _ _ => rfl).symm

/-- Entries of distinct paths are the entries of the rule set that they make up. -/
theorem entries_ofList_of_nodup {entries : Entries Declaration} (distinct : entries.names.Nodup) :
    (ofList entries).entries = entries :=
  (entries_ofList entries).trans (Entries.settle_of_nodup distinct)

/-- The members of an object are read one by one, and so is what is written of them. -/
theorem exists_allMembers? {members : List (String × Json)}
    (distinct : Json.MembersDistinct members) :
    ∃ entries : Entries Declaration,
      Document.allMembers? Declaration.ofDocument? (Json.memberDocuments members) = some entries ∧
        (entries.map fun (path, declaration) => (path, some declaration)) =
          (members.map fun (path, value) => (path, Declaration.ofDocument? value.document)) ∧
        Document.allMembers? Declaration.ofDocument?
            (Json.memberDocuments (entries.map fun (path, declaration) =>
              (path, declaration.toJson))) = some entries := by
  induction members with
  | nil => exact ⟨[], rfl, rfl, rfl⟩
  | cons member rest inductionHypothesis =>
      obtain ⟨path, value⟩ := member
      obtain ⟨declaration, read, -, again⟩ := Declaration.exists_ofDocument? value distinct.1
      obtain ⟨entries, restRead, sameRest, restAgain⟩ := inductionHypothesis distinct.2
      refine ⟨(path, declaration) :: entries, ?_, ?_, ?_⟩
      · rw [Json.memberDocuments, Document.allMembers?, read, restRead]
        rfl
      · simp only [List.map_cons, sameRest, read]
      · rw [List.map_cons, Json.memberDocuments, Document.allMembers?, again, restAgain]
        rfl

/-- Every object is read as a rule set of its members in their order, which is read again from what
it is written as. -/
theorem exists_ofDocument? {members : List (String × Json)}
    (distinct : Json.NamesDistinct (.obj members)) :
    ∃ rules, ofDocument? (Json.obj members).document = some rules ∧
      (rules.entries.map fun (path, declaration) => (path, some declaration)) =
        (members.map fun (path, value) => (path, Declaration.ofDocument? value.document)) ∧
      ofDocument? rules.toJson.document = some rules := by
  obtain ⟨entries, read, sameEntries, again⟩ := exists_allMembers? distinct.2
  have samePaths : entries.names = Entries.names members := by
    have same := congrArg (List.map Prod.fst) sameEntries
    rwa [List.map_map, List.map_map] at same
  have kept : (ofList entries).entries = entries := by
    apply entries_ofList_of_nodup
    rw [samePaths]
    exact distinct.1
  refine ⟨ofList entries, ?_, ?_, ?_⟩
  · rw [Json.document, ofDocument?, Document.entries?, read]
    rfl
  · rw [kept, sameEntries]
  · rw [toJson, kept, Json.document, ofDocument?, Document.entries?, again]
    rfl

end RuleSet

/-- Every value is read as a declaration and every object as a rule set, both of which are read again
from what they are written as, so that the rule set compiles to the same schema. Without rule objects
what is written is the value itself. -/
theorem rules_read_again :
    (∀ value : Json, value.NamesDistinct →
      ∃ declaration, Declaration.ofDocument? value.document = some declaration ∧
        (declaration.objects = [] → declaration.toJson = value) ∧
        Declaration.ofDocument? declaration.toJson.document = some declaration) ∧
      ∀ members, Json.NamesDistinct (.obj members) →
        ∃ rules, RuleSet.ofDocument? (Json.obj members).document = some rules ∧
          (rules.entries.map fun (path, declaration) => (path, some declaration)) =
            (members.map fun (path, value) => (path, Declaration.ofDocument? value.document)) ∧
          RuleSet.ofDocument? rules.toJson.document = some rules ∧
          ∀ options, (RuleSet.ofDocument? rules.toJson.document).map (·.compile options) =
            some (rules.compile options) := by
  refine ⟨Declaration.exists_ofDocument?, fun members distinct => ?_⟩
  obtain ⟨rules, read, sameEntries, again⟩ := RuleSet.exists_ofDocument? distinct
  refine ⟨rules, read, sameEntries, again, fun options => ?_⟩
  rw [again, Option.map_some]

/-- Rule objects with their kind by its place, with parts in lists and with a null for the value of a
case, an object of no known kind, and lists in lists. -/
def ticketRules : List (String × Json) :=
  [("zone", .obj [("kind", .num (.int 1)), ("values", .arr [.str "a", .obj [("b", .null)]])]),
    ("state", .arr [.str "required", .null,
      .obj [("enum_type", .arr [.str "State", .arr [.arr [.str "Open", .null],
        .obj [("value", .bool true), ("name", .str "Done")]]]), ("kind", .str "enum")]]),
    ("note", .obj [("class", .str "Note"), ("kind", .str "class"), ("hint", .num (.int 3))]),
    ("other", .arr [.num (.int 1), .arr [.obj [("kind", .str "callable")], .obj []]])]

/-- As a declaration the tickets are of no known kind and written as they are, and as a rule set they
are read again as the same four paths. -/
theorem rules_read_again_ticket :
    Json.NamesDistinct (.obj ticketRules) ∧
      (∃ declaration, Declaration.ofDocument? (Json.obj ticketRules).document = some declaration ∧
        declaration.toJson = .obj ticketRules ∧
        Declaration.ofDocument? declaration.toJson.document = some declaration) ∧
      ∃ rules, RuleSet.ofDocument? (Json.obj ticketRules).document = some rules ∧
        RuleSet.ofDocument? rules.toJson.document = some rules ∧
        rules.entries.map Prod.fst = ["zone", "state", "note", "other"] := by
  have distinct : Json.NamesDistinct (.obj ticketRules) := by decide
  obtain ⟨ofValues, ofObjects⟩ := rules_read_again
  obtain ⟨rules, read, sameEntries, again, -⟩ := ofObjects ticketRules distinct
  obtain ⟨declaration, declarationRead, written, declarationAgain⟩ := ofValues _ distinct
  have noKind : Declaration.ofDocument? (Json.obj ticketRules).document =
      some (.unknown (.obj ticketRules)) := rfl
  have isUnknown := Option.some.inj (declarationRead.symm.trans noKind)
  refine ⟨distinct, ⟨declaration, declarationRead, written ?_, declarationAgain⟩, rules, read, again,
    ?_⟩
  · rw [isUnknown]
    rfl
  · have same := congrArg (List.map Prod.fst) sameEntries
    rwa [List.map_map, List.map_map] at same

end Formwork
