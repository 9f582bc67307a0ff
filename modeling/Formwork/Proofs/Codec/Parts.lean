/-
This file shows what is read from the parts of a written record.
-/

import Formwork.Codec.Record
import Formwork.Proofs.Json.Settled

namespace Formwork

namespace Entries

variable {Value : Type}

theorem find?_append (name : String) (entries other : Entries Value) :
    find? name (entries ++ other) = (find? name entries <|> find? name other) := by
  induction entries with
  | nil => rfl
  | cons entry rest inductionHypothesis =>
      obtain ⟨first, value⟩ := entry
      by_cases here : first = name <;> simp [find?, here, inductionHypothesis]

end Entries

namespace Json

theorem find?_optionalMember {Value : Type} (name other : String) (write : Value → Json)
    (part : Option Value) :
    Entries.find? other (optionalMember name write part) =
      if name = other then part.map write else none := by
  cases part with
  | none => simp [optionalMember, Entries.find?]
  | some value => simp [optionalMember, Entries.find?]

theorem document_ne_null {value : Json} (differs : value ≠ null) : value.document ≠ .null := by
  cases value with
  | null => contradiction
  | _ => exact nofun

end Json

namespace Document

theorem member?_memberDocuments (name : String) (members : List (String × Json)) :
    member? name (Json.memberDocuments members) =
      (Entries.find? name members).map Json.document := by
  induction members with
  | nil => rfl
  | cons member rest inductionHypothesis =>
      obtain ⟨other, value⟩ := member
      by_cases here : other = name <;>
        simp [Json.memberDocuments, member?, Entries.find?, here, inductionHypothesis]

theorem occurrences_memberDocuments (name : String) (members : List (String × Json)) :
    occurrences name (Json.memberDocuments members) = (Entries.names members).count name := by
  induction members with
  | nil => rfl
  | cons member rest inductionHypothesis =>
      obtain ⟨other, value⟩ := member
      rw [occurrences] at inductionHypothesis
      simp [Json.memberDocuments, occurrences, Entries.names, List.countP_cons, List.count_cons,
        inductionHypothesis]

/-- An object in which no name repeats is a record of its members. -/
theorem record?_memberDocuments (names : List String) {members : List (String × Json)}
    (distinct : (Entries.names members).Nodup) :
    (obj (Json.memberDocuments members)).record? names =
      some fun name => (Entries.find? name members).map Json.document := by
  have allNamed : (Json.memberDocuments members).any (·.1.isNone) = false := by
    clear distinct
    induction members with
    | nil => rfl
    | cons member rest inductionHypothesis =>
        obtain ⟨name, value⟩ := member
        simpa [Json.memberDocuments] using inductionHypothesis
  have noneRepeats :
      names.any (fun name => 1 < occurrences name (Json.memberDocuments members)) = false := by
    rw [List.any_eq_false]
    intro name _
    rw [occurrences_memberDocuments, decide_eq_true_eq, Nat.not_lt]
    exact List.nodup_iff_count.mp distinct name
  rw [record?, allNamed, noneRepeats]
  simp only [member?_memberDocuments]
  rfl

theorem nullable?_of_ne_null {Value : Type} {read? : Document → Option Value}
    {document : Document} (differs : document ≠ null) :
    nullable? read? document = (read? document).map some := by
  cases document with
  | null => contradiction
  | _ => rfl

variable {Value Read : Type} {read? : Document → Option Read} {write : Value → Json}
  {reading : Value → Read}

theorem nullable?_document (law : ∀ value, read? (write value).document = some (reading value))
    (notNull : ∀ value, write value ≠ .null) (value : Value) :
    nullable? read? (write value).document = some (some (reading value)) := by
  rw [nullable?_of_ne_null (Json.document_ne_null (notNull value)), law]
  rfl

/-- A part that is null if it is missing. -/
theorem nullable?_ofOption (law : ∀ value, read? (write value).document = some (reading value))
    (notNull : ∀ value, write value ≠ .null) (part : Option Value) :
    nullable? read? (Json.ofOption write part).document = some (part.map reading) := by
  cases part with
  | none => rfl
  | some value => exact nullable?_document law notNull value

/-- A part that is left out if it is missing. -/
theorem orElse_nullable?_map
    (law : ∀ value, read? (write value).document = some (reading value))
    (notNull : ∀ value, write value ≠ .null) (part : Option Value) :
    orElse none (nullable? read?) (part.map (Json.document ∘ write)) =
      some (part.map reading) := by
  cases part with
  | none => rfl
  | some value => exact nullable?_document law notNull value

theorem allItems?_map {values : List Value}
    (law : ∀ value ∈ values, read? (write value).document = some (reading value)) :
    allItems? read? (Json.itemDocuments (values.map write)) = some (values.map reading) := by
  induction values with
  | nil => rfl
  | cons value rest inductionHypothesis =>
      rw [List.forall_mem_cons] at law
      rw [List.map_cons, Json.itemDocuments, allItems?, law.1, inductionHypothesis law.2]
      rfl

theorem list?_arr (law : ∀ value, read? (write value).document = some (reading value))
    (values : List Value) :
    list? read? (Json.arr (values.map write)).document = some (values.map reading) := by
  rw [Json.document, list?]
  exact allItems?_map fun value _ => law value

/-- Values in a list are read as settled ones. -/
theorem list?_value (values : List Json) :
    list? value? (Json.arr values).document = some (values.map Json.settled) := by
  have law (value : Json) : (id value).document.value? = some value.settled :=
    Json.value?_document value
  simpa using list?_arr law values

theorem allMembers?_map (law : ∀ value, read? (write value).document = some (reading value))
    (entries : Entries Value) :
    allMembers? read? (Json.memberDocuments (entries.map fun (name, value) => (name, write value))) =
      some (entries.map fun (name, value) => (name, reading value)) := by
  induction entries with
  | nil => rfl
  | cons entry rest inductionHypothesis =>
      obtain ⟨name, value⟩ := entry
      rw [List.map_cons, Json.memberDocuments, allMembers?, law, inductionHypothesis]
      rfl

@[simp]
theorem orElse_some (missing : Value) (read? : Document → Option Value) (document : Document) :
    orElse missing read? (some document) = read? document := rfl

@[simp]
theorem text?_str (text : String) : text? (Json.str text).document = some text := rfl

@[simp]
theorem bool?_bool (value : Bool) : bool? (Json.bool value).document = some value := rfl

@[simp]
theorem list?_ofTexts (texts : List String) :
    list? text? (Json.ofTexts texts).document = some texts := by
  rw [Json.ofTexts, list?_arr text?_str, List.map_id']

@[simp]
theorem nullable?_text (part : Option String) :
    nullable? text? (Json.ofOption .str part).document = some part := by
  rw [nullable?_ofOption text?_str (by simp), Option.map_id']

@[simp]
theorem nullable?_number (part : Option Number) :
    nullable? number? (Json.ofOption .num part).document = some part := by
  have law (value : Number) : number? (Json.num value).document = some (id value) := rfl
  rw [nullable?_ofOption law (by simp), Option.map_id]
  rfl

@[simp]
theorem orElse_text (part : Option String) :
    orElse none (nullable? text?) (part.map (Json.document ∘ .str)) = some part := by
  rw [orElse_nullable?_map text?_str (by simp), Option.map_id']

@[simp]
theorem orElse_texts (part : Option (List String)) :
    orElse none (nullable? (list? text?)) (part.map (Json.document ∘ .ofTexts)) = some part := by
  rw [orElse_nullable?_map list?_ofTexts (by simp [Json.ofTexts]), Option.map_id']

/-- What is read from a part that may be missing is the default or is read from a document. -/
theorem of_orElse {Value : Type} {read? : Document → Option Value} {property : Value → Prop}
    {default value : Value} (ofDefault : property default)
    (law : ∀ {document value}, read? document = some value → property value)
    {part : Option Document} (read : orElse default read? part = some value) : property value := by
  cases part with
  | none => exact Option.some.inj read ▸ ofDefault
  | some document => exact law read

/-- Whatever is read from a part that may be missing or null is read from a document. -/
theorem of_orElse_nullable? {Value : Type} {read? : Document → Option Value}
    {property : Value → Prop}
    (law : ∀ {document value}, read? document = some value → property value)
    {part : Option Document} {optional : Option Value}
    (read : orElse none (nullable? read?) part = some optional) :
    ∀ value ∈ optional, property value := by
  intro value isValue
  obtain rfl := Option.mem_def.mp isValue
  cases part with
  | none => cases read
  | some document =>
      rw [orElse, nullable?.eq_def] at read
      split at read
      · cases read
      · obtain ⟨other, valueRead, same⟩ := Option.map_eq_some_iff.mp read
        rw [← Option.some.inj same]
        exact law valueRead

/-- A change that leaves every value that is read as it is leaves lists of them as they are. -/
theorem map_of_list? {Value : Type} {read? : Document → Option Value} {change : Value → Value}
    (law : ∀ {document value}, read? document = some value → change value = value)
    {document : Document} {values : List Value} (read : list? read? document = some values) :
    values.map change = values := by
  cases document with
  | arr items =>
      rw [list?] at read
      induction items generalizing values with
      | nil =>
          cases read
          rfl
      | cons item rest inductionHypothesis =>
          simp only [allItems?, Option.bind_eq_bind, Option.bind_eq_some_iff,
            Option.some.injEq] at read
          obtain ⟨value, itemRead, values, restRead, rfl⟩ := read
          rw [List.map_cons, law itemRead, inductionHypothesis restRead]
  | _ => cases read

/-- A value that is read from a document is settled. -/
theorem settled_of_value? {document : Document} {value : Json}
    (read : document.value? = some value) : value.settled = value :=
  Json.settled_of_namesDistinct value (namesDistinct_of_value? document read)

end Document

end Formwork
