/-
This file defines the types that their names stand for. Only such types are read from documents.
-/

import Formwork.Proofs.Codec.Schema

namespace Formwork

namespace FieldType

/-- The name of the type stands for the type itself. -/
def Named (type : FieldType) : Prop :=
  type.readBack = type

instance : DecidablePred Named :=
  fun type => inferInstanceAs (Decidable (type.readBack = type))

/-- A name that is not the one of a fixed type names a type of its own. -/
theorem named_ofName (name : String) : (ofName name).Named := by
  have fixed : ∀ entry ∈ fixedNames, entry.2.Named := by decide
  cases found : fixedNames.find? name with
  | some type =>
      rw [ofName, found]
      exact fixed (name, type) (Entries.mem_of_find? found)
  | none =>
      have own : ofName name = other name := by
        rw [ofName, found]
        rfl
      rw [own]
      exact own

/-- The named types are the types that names stand for. -/
theorem named_iff (type : FieldType) : type.Named ↔ ∃ name, type = ofName name := by
  constructor
  · intro named
    exact ⟨type.name, named.symm⟩
  · rintro ⟨name, rfl⟩
    exact named_ofName name

theorem named_of_ofDocument? {document : Document} {type : FieldType}
    (read : ofDocument? document = some type) : type.Named := by
  obtain ⟨name, _, rfl⟩ := Option.map_eq_some_iff.mp read
  exact named_ofName name

end FieldType

namespace FieldInfo

/-- The types that are told about a field have names that stand for them. -/
def TypesNamed (info : FieldInfo) : Prop :=
  info.type.Named ∧ ∀ type ∈ info.childType, type.Named

instance : DecidablePred TypesNamed :=
  fun _ => inferInstanceAs (Decidable (_ ∧ _))

theorem typesNamed_of_ofDocument? {document : Document} {info : FieldInfo}
    (read : ofDocument? document = some info) : info.TypesNamed := by
  simp only [ofDocument?, Option.bind_eq_bind, Option.bind_eq_some_iff, Option.some.injEq] at read
  obtain ⟨part, -, constraints, -, key, -, type, ⟨typePart, -, typeRead⟩, options, -, rules, -,
    childType, childTypeRead, isList, -, isPattern, -, description, -, rfl⟩ := read
  exact ⟨FieldType.named_of_ofDocument? typeRead,
    Document.of_orElse_nullable? FieldType.named_of_ofDocument? childTypeRead⟩

end FieldInfo

namespace SchemaNode

/-- The types of a node and of all nodes inside it have names that stand for them. -/
def TypesNamed : SchemaNode → Prop :=
  Everywhere fun node => node.info.TypesNamed

instance : DecidablePred TypesNamed :=
  inferInstanceAs (DecidablePred (Everywhere _))

theorem typesNamed_iff (node : SchemaNode) :
    node.TypesNamed ↔ node.info.TypesNamed ∧ ∀ child ∈ node.children, child.TypesNamed :=
  everywhere_iff node

mutual

/-- Types that are read have names that stand for them. -/
theorem typesNamed_of_ofDocument? : (document : Document) → {node : SchemaNode} →
    ofDocument? document = some node → node.TypesNamed
  | .obj members, _, read => by
      simp only [ofDocument?, Option.bind_eq_bind, Option.bind_eq_some_iff,
        Option.some.injEq] at read
      obtain ⟨info, infoRead, schema, schemaRead, rfl⟩ := read
      rw [TypesNamed, everywhere_iff]
      exact ⟨FieldInfo.typesNamed_of_ofDocument? infoRead,
        typesNamed_of_schemaMember? members schemaRead⟩
  | .arr items, _, read => by
      simp only [ofDocument?, Option.bind_eq_bind, Option.bind_eq_some_iff,
        Option.some.injEq] at read
      obtain ⟨info, infoRead, schema, schemaRead, rfl⟩ := read
      rw [TypesNamed, everywhere_iff]
      exact ⟨FieldInfo.typesNamed_of_ofDocument? infoRead,
        typesNamed_of_schemaItem? schemaIndex items schemaRead⟩
  | .null, _, read => by cases read
  | .bool _, _, read => by cases read
  | .num _, _, read => by cases read
  | .str _, _, read => by cases read
  | .unusable, _, read => by cases read

theorem typesNamed_of_schemaMember? : (members : List (Option String × Document)) →
    {schema : Option (List SchemaNode)} → schemaMember? members = some schema →
      ∀ node ∈ schema.getD [], node.TypesNamed
  | [], _, read => by cases read; simp
  | (name, document) :: rest, _, read => by
      rw [schemaMember?] at read
      split at read
      · exact typesNamed_of_schema? document read
      · exact typesNamed_of_schemaMember? rest read

theorem typesNamed_of_schemaItem? : (index : Nat) → (items : List Document) →
    {schema : Option (List SchemaNode)} → schemaItem? index items = some schema →
      ∀ node ∈ schema.getD [], node.TypesNamed
  | _, [], _, read => by cases read; simp
  | 0, document :: _, _, read => typesNamed_of_schema? document read
  | index + 1, _ :: rest, _, read => typesNamed_of_schemaItem? index rest read

theorem typesNamed_of_schema? : (document : Document) → {schema : Option (List SchemaNode)} →
    schema? document = some schema → ∀ node ∈ schema.getD [], node.TypesNamed
  | .null, _, read => by cases read; simp
  | .arr items, _, read => by
      obtain ⟨nodes, nodesRead, rfl⟩ := Option.map_eq_some_iff.mp read
      exact typesNamed_of_ofDocuments? items nodesRead
  | .bool _, _, read => by cases read
  | .num _, _, read => by cases read
  | .str _, _, read => by cases read
  | .obj _, _, read => by cases read
  | .unusable, _, read => by cases read

theorem typesNamed_of_ofDocuments? : (documents : List Document) → {nodes : List SchemaNode} →
    ofDocuments? documents = some nodes → ∀ node ∈ nodes, node.TypesNamed
  | [], _, read => by cases read; simp
  | document :: rest, _, read => by
      simp only [ofDocuments?, Option.bind_eq_bind, Option.bind_eq_some_iff,
        Option.some.injEq] at read
      obtain ⟨node, nodeRead, nodes, restRead, rfl⟩ := read
      rw [List.forall_mem_cons]
      exact ⟨typesNamed_of_ofDocument? document nodeRead, typesNamed_of_ofDocuments? rest restRead⟩

end

theorem typesNamed_of_listOfDocument? {document : Document} {nodes : List SchemaNode}
    (read : listOfDocument? document = some nodes) : ∀ node ∈ nodes, node.TypesNamed := by
  rw [listOfDocument?.eq_def] at read
  split at read
  · exact typesNamed_of_ofDocuments? _ read
  · cases read

end SchemaNode

end Formwork
