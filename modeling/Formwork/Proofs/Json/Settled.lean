/-
This file shows what is read from a value as a document: the value in which each object has each
name once.
-/

import Formwork.Json.Reader

namespace Formwork

namespace Entries

variable {Value : Type}

theorem put_of_new {name : String} (value : Value) {entries : Entries Value}
    (new : name ∉ entries.names) : entries.put name value = entries ++ [(name, value)] := by
  induction entries with
  | nil => rfl
  | cons entry rest inductionHypothesis =>
      obtain ⟨other, old⟩ := entry
      simp only [names, List.map_cons, List.mem_cons, not_or] at new
      rw [put, if_neg (Ne.symm new.1), inductionHypothesis new.2, List.cons_append]

theorem merge_of_nodup {entries other : Entries Value}
    (distinct : (entries ++ other).names.Nodup) : entries.merge other = entries ++ other := by
  induction other generalizing entries with
  | nil => simp [merge]
  | cons entry rest inductionHypothesis =>
      obtain ⟨name, value⟩ := entry
      have new : name ∉ entries.names := by
        intro old
        simp only [names, List.map_append, List.map_cons, List.nodup_append] at distinct
        exact distinct.2.2 name old name List.mem_cons_self rfl
      have distinctAfter : ((entries ++ [(name, value)]) ++ rest).names.Nodup := by
        simpa using distinct
      calc
        entries.merge ((name, value) :: rest) = (entries.put name value).merge rest := rfl
        _ = (entries ++ [(name, value)]).merge rest := by rw [put_of_new value new]
        _ = entries ++ (name, value) :: rest := by
          rw [inductionHypothesis distinctAfter, List.append_assoc, List.singleton_append]

/-- Entries of distinct names stay as they are. -/
theorem settle_of_nodup {entries : Entries Value} (distinct : entries.names.Nodup) :
    entries.settle = entries :=
  merge_of_nodup distinct

theorem mem_put {name : String} {value : Value} {entries : Entries Value} {entry : String × Value}
    (member : entry ∈ entries.put name value) : entry = (name, value) ∨ entry ∈ entries := by
  induction entries with
  | nil =>
      rw [put, List.mem_singleton] at member
      exact .inl member
  | cons first rest inductionHypothesis =>
      obtain ⟨other, old⟩ := first
      rw [put] at member
      split at member
      · rename_i same
        rcases List.mem_cons.mp member with isNew | later
        · exact .inl (same ▸ isNew)
        · exact .inr (List.mem_cons_of_mem _ later)
      · rcases List.mem_cons.mp member with isFirst | later
        · exact .inr (isFirst ▸ List.mem_cons_self)
        · exact (inductionHypothesis later).imp_right (List.mem_cons_of_mem _)

theorem forall_merge {property : String × Value → Prop} {entries other : Entries Value}
    (before : ∀ entry ∈ entries, property entry) (added : ∀ entry ∈ other, property entry) :
    ∀ entry ∈ entries.merge other, property entry := by
  induction other generalizing entries with
  | nil => exact before
  | cons first rest inductionHypothesis =>
      rw [List.forall_mem_cons] at added
      apply inductionHypothesis _ added.2
      intro entry member
      rcases mem_put member with isNew | old
      · exact isNew ▸ added.1
      · exact before entry old

/-- What holds of all entries holds of those that are left. -/
theorem forall_settle {property : String × Value → Prop} {entries : Entries Value}
    (all : ∀ entry ∈ entries, property entry) : ∀ entry ∈ entries.settle, property entry :=
  forall_merge (by simp) all

theorem mem_names_put {name other : String} {value : Value} {entries : Entries Value} :
    name ∈ (entries.put other value).names ↔ name ∈ entries.names ∨ name = other := by
  rw [names_put]
  split
  · rename_i old
    exact (or_iff_left_of_imp fun same => same ▸ old).symm
  · rw [List.mem_append, List.mem_singleton]

theorem mem_names_merge {name : String} {entries other : Entries Value} :
    name ∈ (entries.merge other).names ↔ name ∈ entries.names ∨ name ∈ other.names := by
  induction other generalizing entries with
  | nil => exact (or_iff_left List.not_mem_nil).symm
  | cons first rest inductionHypothesis =>
      have cut : name ∈ names (first :: rest) ↔ name = first.1 ∨ name ∈ names rest :=
        List.mem_cons
      calc
        name ∈ (entries.merge (first :: rest)).names ↔
            name ∈ ((entries.put first.1 first.2).merge rest).names := Iff.rfl
        _ ↔ (name ∈ entries.names ∨ name = first.1) ∨ name ∈ names rest := by
          rw [inductionHypothesis, mem_names_put]
        _ ↔ name ∈ entries.names ∨ name ∈ names (first :: rest) := by rw [or_assoc, cut]

/-- No name is lost. -/
theorem mem_names_settle {name : String} {entries : Entries Value} :
    name ∈ entries.settle.names ↔ name ∈ entries.names :=
  mem_names_merge.trans (or_iff_right List.not_mem_nil)

end Entries

namespace Json

mutual

/-- The value in which each object has each name once, with its last value. -/
def settled : Json → Json
  | null => null
  | bool value => bool value
  | num value => num value
  | str text => str text
  | arr items => arr (settledItems items)
  | obj members => obj (Entries.settle (settledMembers members))

def settledItems : List Json → List Json
  | [] => []
  | item :: rest => settled item :: settledItems rest

def settledMembers : List (String × Json) → List (String × Json)
  | [] => []
  | (name, value) :: rest => (name, settled value) :: settledMembers rest

end

mutual

/-- A value as a document stands for the value in which each object has each name once. -/
theorem value?_document : (value : Json) → value.document.value? = some value.settled
  | null => rfl
  | bool _ => rfl
  | num _ => rfl
  | str _ => rfl
  | arr items => by rw [document, Document.value?, itemValues?_itemDocuments items]; rfl
  | obj members => by rw [document, Document.value?, memberValues?_memberDocuments members]; rfl

theorem itemValues?_itemDocuments :
    (items : List Json) → Document.itemValues? (itemDocuments items) = some (settledItems items)
  | [] => rfl
  | item :: rest => by
      rw [itemDocuments, Document.itemValues?, value?_document item, itemValues?_itemDocuments rest]
      rfl

theorem memberValues?_memberDocuments : (members : List (String × Json)) →
    Document.memberValues? (memberDocuments members) = some (settledMembers members)
  | [] => rfl
  | (name, value) :: rest => by
      rw [memberDocuments, Document.memberValues?, value?_document value,
        memberValues?_memberDocuments rest]
      rfl

end

mutual

/-- No object inside a value has a name twice. -/
def NamesDistinct : Json → Prop
  | arr items => ItemsDistinct items
  | obj members => (Entries.names members).Nodup ∧ MembersDistinct members
  | _ => True

def ItemsDistinct : List Json → Prop
  | [] => True
  | item :: rest => NamesDistinct item ∧ ItemsDistinct rest

def MembersDistinct : List (String × Json) → Prop
  | [] => True
  | (_, value) :: rest => NamesDistinct value ∧ MembersDistinct rest

end

mutual

def decidableNamesDistinct : (value : Json) → Decidable value.NamesDistinct
  | null => .isTrue trivial
  | bool _ => .isTrue trivial
  | num _ => .isTrue trivial
  | str _ => .isTrue trivial
  | arr items => decidableItemsDistinct items
  | obj members =>
      have : Decidable (MembersDistinct members) := decidableMembersDistinct members
      inferInstanceAs (Decidable ((Entries.names members).Nodup ∧ MembersDistinct members))

def decidableItemsDistinct : (items : List Json) → Decidable (ItemsDistinct items)
  | [] => .isTrue trivial
  | item :: rest =>
      have : Decidable item.NamesDistinct := decidableNamesDistinct item
      have : Decidable (ItemsDistinct rest) := decidableItemsDistinct rest
      inferInstanceAs (Decidable (NamesDistinct item ∧ ItemsDistinct rest))

def decidableMembersDistinct :
    (members : List (String × Json)) → Decidable (MembersDistinct members)
  | [] => .isTrue trivial
  | (_, value) :: rest =>
      have : Decidable value.NamesDistinct := decidableNamesDistinct value
      have : Decidable (MembersDistinct rest) := decidableMembersDistinct rest
      inferInstanceAs (Decidable (NamesDistinct value ∧ MembersDistinct rest))

end

instance : DecidablePred NamesDistinct :=
  decidableNamesDistinct

mutual

/-- A value in which no object has a name twice is read as it is. -/
theorem settled_of_namesDistinct :
    (value : Json) → value.NamesDistinct → value.settled = value
  | null, _ => rfl
  | bool _, _ => rfl
  | num _, _ => rfl
  | str _, _ => rfl
  | arr items, distinct => by rw [settled, settledItems_of_itemsDistinct items distinct]
  | obj members, distinct => by
      rw [settled, settledMembers_of_membersDistinct members distinct.2,
        Entries.settle_of_nodup distinct.1]

theorem settledItems_of_itemsDistinct :
    (items : List Json) → ItemsDistinct items → settledItems items = items
  | [], _ => rfl
  | item :: rest, distinct => by
      rw [settledItems, settled_of_namesDistinct item distinct.1,
        settledItems_of_itemsDistinct rest distinct.2]

theorem settledMembers_of_membersDistinct :
    (members : List (String × Json)) → MembersDistinct members → settledMembers members = members
  | [], _ => rfl
  | (name, value) :: rest, distinct => by
      rw [settledMembers, settled_of_namesDistinct value distinct.1,
        settledMembers_of_membersDistinct rest distinct.2]

end

theorem membersDistinct_iff (members : List (String × Json)) :
    MembersDistinct members ↔ ∀ member ∈ members, NamesDistinct member.2 := by
  induction members with
  | nil => simp [MembersDistinct]
  | cons member rest inductionHypothesis =>
      rw [MembersDistinct, inductionHypothesis, List.forall_mem_cons]

end Json

namespace Document

mutual

/-- No object of a value that a document stands for has a name twice. -/
theorem namesDistinct_of_value? : (document : Document) → {value : Json} →
    document.value? = some value → value.NamesDistinct
  | null, _, read => by cases read; trivial
  | bool _, _, read => by cases read; trivial
  | num _, _, read => by cases read; trivial
  | str _, _, read => by cases read; trivial
  | arr items, _, read => by
      rw [value?] at read
      obtain ⟨values, itemsRead, rfl⟩ := Option.map_eq_some_iff.mp read
      exact itemsDistinct_of_itemValues? items itemsRead
  | obj members, _, read => by
      rw [value?] at read
      obtain ⟨values, membersRead, rfl⟩ := Option.map_eq_some_iff.mp read
      refine ⟨Entries.nodup_settle values, ?_⟩
      rw [Json.membersDistinct_iff]
      exact Entries.forall_settle (membersDistinct_of_memberValues? members membersRead)
  | unusable, _, read => by cases read

theorem itemsDistinct_of_itemValues? : (items : List Document) → {values : List Json} →
    itemValues? items = some values → Json.ItemsDistinct values
  | [], _, read => by cases read; trivial
  | item :: rest, _, read => by
      simp only [itemValues?, Option.bind_eq_bind, Option.bind_eq_some_iff,
        Option.some.injEq] at read
      obtain ⟨value, itemRead, values, restRead, rfl⟩ := read
      exact ⟨namesDistinct_of_value? item itemRead, itemsDistinct_of_itemValues? rest restRead⟩

theorem membersDistinct_of_memberValues? : (members : List (Option String × Document)) →
    {values : List (String × Json)} → memberValues? members = some values →
      ∀ member ∈ values, member.2.NamesDistinct
  | [], _, read => by cases read; simp
  | (name, item) :: rest, _, read => by
      simp only [memberValues?, Option.bind_eq_bind, Option.bind_eq_some_iff, Option.some.injEq]
        at read
      obtain ⟨text, _, value, itemRead, values, restRead, rfl⟩ := read
      rw [List.forall_mem_cons]
      exact ⟨namesDistinct_of_value? item itemRead,
        membersDistinct_of_memberValues? rest restRead⟩

end

end Document

/-- No object of a value that a text stands for has a name twice. -/
theorem Json.namesDistinct_of_ofText? {text : String} {value : Json}
    (read : Json.ofText? text = some value) : value.NamesDistinct := by
  obtain ⟨document, _, stands⟩ := Option.bind_eq_some_iff.mp read
  exact Document.namesDistinct_of_value? document stands

end Formwork
