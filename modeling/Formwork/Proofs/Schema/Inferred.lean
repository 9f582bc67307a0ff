/-
This file shows what holds of every node of a schema that is inferred from an example: the fields
inside it are those of the value at its key, so sibling keys are distinct.
-/

import Formwork.Proofs.Json.Settled
import Formwork.Proofs.Schema.Distinct
import Formwork.Schema.Example

namespace Formwork.SchemaNode

variable (wildcard : String)

theorem ofExample_of_not_isNested {value : Json} (scalar : isNested value = false) :
    ofExample wildcard value = [] := by
  cases value with
  | obj => cases scalar
  | arr => cases scalar
  | null => rfl
  | bool => rfl
  | num => rfl
  | str => rfl

/-- The field of a member is an object or a list of objects with the fields of its value inside, or
a list of scalars or a scalar, whose value has no fields. -/
theorem ofMember_cases (key : String) (value : Json) :
    (∃ isList, ofMember wildcard key value =
        ⟨{ FieldInfo.ofExample wildcard key value with type := .object, isList := isList },
          some (ofExample wildcard value)⟩) ∨
      ofExample wildcard value = [] ∧
        ((∃ itemType, ofMember wildcard key value =
            leaf { FieldInfo.ofExample wildcard key value with
              type := .array, childType := some itemType }) ∨
          ofMember wildcard key value = leaf (FieldInfo.ofExample wildcard key value)) := by
  cases value with
  | obj members => exact .inl ⟨false, rfl⟩
  | arr items =>
      cases items with
      | nil => exact .inr ⟨rfl, .inl ⟨.text, rfl⟩⟩
      | cons first rest =>
          cases nested : isNested first with
          | true =>
              refine .inl ⟨true, ?_⟩
              simp only [ofMember, List.head?_cons, nested]
              rfl
          | false =>
              have noFields : ofExample wildcard first = [] :=
                ofExample_of_not_isNested wildcard nested
              refine .inr ⟨noFields, .inl ⟨.ofExample first, ?_⟩⟩
              simp only [ofMember, List.head?_cons, nested]
              rfl
  | null => exact .inr ⟨rfl, .inr rfl⟩
  | bool => exact .inr ⟨rfl, .inr rfl⟩
  | num => exact .inr ⟨rfl, .inr rfl⟩
  | str => exact .inr ⟨rfl, .inr rfl⟩

/-- The fields inside the field of a member are those of its value. -/
theorem children_ofMember (key : String) (value : Json) :
    (ofMember wildcard key value).children = ofExample wildcard value := by
  rcases ofMember_cases wildcard key value with
    ⟨isList, same⟩ | ⟨noFields, ⟨itemType, same⟩ | same⟩
  · rw [same]
    rfl
  · rw [same, noFields]
    rfl
  · rw [same, noFields]
    rfl

theorem key_ofMember (key : String) (value : Json) : (ofMember wildcard key value).key = key := by
  rcases ofMember_cases wildcard key value with ⟨_, same⟩ | ⟨_, ⟨_, same⟩ | same⟩
  all_goals
    rw [same]
    rfl

theorem ofMembers_eq_map (members : List (String × Json)) :
    ofMembers wildcard members =
      members.map fun member => ofMember wildcard member.1 member.2 := by
  induction members with
  | nil => rfl
  | cons member rest inductionHypothesis =>
      rw [ofMembers, inductionHypothesis, List.map_cons]

theorem keys_ofMembers (members : List (String × Json)) :
    (ofMembers wildcard members).map (·.key) = Entries.names members := by
  rw [ofMembers_eq_map, List.map_map, Entries.names]
  exact List.map_congr_left fun member _ => key_ofMember wildcard member.1 member.2

mutual

theorem siblingsDistinct_ofExample :
    (value : Json) → value.NamesDistinct → SiblingsDistinct (ofExample wildcard value)
  | .obj members, distinct => by
      rw [ofExample, SiblingsDistinct, keys_ofMembers]
      exact distinct.1
  | .arr items, distinct => siblingsDistinct_ofFirst items distinct
  | .null, _ => List.nodup_nil
  | .bool _, _ => List.nodup_nil
  | .num _, _ => List.nodup_nil
  | .str _, _ => List.nodup_nil

theorem siblingsDistinct_ofFirst :
    (items : List Json) → Json.ItemsDistinct items → SiblingsDistinct (ofFirst wildcard items)
  | [], _ => List.nodup_nil
  | first :: _, distinct => siblingsDistinct_ofExample first distinct.1

end

variable {wildcard}

mutual

/-- What holds of the field of every member holds of all nodes of an inferred schema. -/
theorem everywhere_ofExample {holds : SchemaNode → Prop}
    (here : ∀ key value, Json.NamesDistinct value → holds (ofMember wildcard key value)) :
    (value : Json) → value.NamesDistinct →
      ∀ node ∈ ofExample wildcard value, node.Everywhere holds
  | .obj members, distinct => everywhere_ofMembers here members distinct.2
  | .arr items, distinct => everywhere_ofFirst here items distinct
  | .null, _ => nofun
  | .bool _, _ => nofun
  | .num _, _ => nofun
  | .str _, _ => nofun

theorem everywhere_ofFirst {holds : SchemaNode → Prop}
    (here : ∀ key value, Json.NamesDistinct value → holds (ofMember wildcard key value)) :
    (items : List Json) → Json.ItemsDistinct items →
      ∀ node ∈ ofFirst wildcard items, node.Everywhere holds
  | [], _ => nofun
  | first :: _, distinct => everywhere_ofExample here first distinct.1

theorem everywhere_ofMembers {holds : SchemaNode → Prop}
    (here : ∀ key value, Json.NamesDistinct value → holds (ofMember wildcard key value)) :
    (members : List (String × Json)) → Json.MembersDistinct members →
      ∀ node ∈ ofMembers wildcard members, node.Everywhere holds
  | [], _ => nofun
  | (key, value) :: rest, distinct => by
      rw [ofMembers, List.forall_mem_cons, everywhere_iff, children_ofMember]
      exact ⟨⟨here key value distinct.1, everywhere_ofExample here value distinct.1⟩,
        everywhere_ofMembers here rest distinct.2⟩

end

/-- Sibling keys are distinct at every level of an inferred schema. -/
theorem allKeysDistinct_ofExample (wildcard : String) {value : Json}
    (distinct : value.NamesDistinct) : AllKeysDistinct (ofExample wildcard value) := by
  refine ⟨siblingsDistinct_ofExample wildcard value distinct, ?_⟩
  refine everywhere_ofExample (fun key inner innerDistinct => ?_) value distinct
  rw [children_ofMember]
  exact siblingsDistinct_ofExample wildcard inner innerDistinct

end Formwork.SchemaNode
