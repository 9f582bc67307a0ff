/-
This file shows that rebuilding fields from one JSON body a second time changes nothing: every member
finds the field that was rebuilt from it before.
-/

import Formwork.Proofs.Instance.Hydrated
import Formwork.Proofs.Instance.WellFormed
import Formwork.SizedEngine

namespace Formwork

namespace InstanceNode

/-- A scalar keeps the type that it was given before. -/
theorem scalarType_scalarType (previous : Option FieldType) (value : Json) :
    scalarType (some (scalarType previous value)) value = scalarType previous value := by
  have kept : ((some (scalarType previous value)).filter (·.shape == .scalar)).getD .text =
      scalarType previous value := by
    rw [Option.filter_some, if_pos (by simp [shape_scalarType]), Option.getD_some]
  cases value <;> first | rfl | exact kept

variable [PatternEngine]

/-- A field is found for its own key. -/
theorem matching?_key (wildcard : String) {nodes : List InstanceNode}
    (distinct : SiblingsDistinct nodes) {node : InstanceNode} (member : node ∈ nodes) :
    matching? wildcard nodes node.key = some node := by
  rw [matching?, find?_name_of_mem distinct member]
  rfl

section

variable (wildcard : String)

/-- Members of distinct names become fields by distinct keys. -/
theorem siblingsDistinct_hydrateMembers (existing : List InstanceNode)
    {members : List (String × Json)} (distinct : (Entries.names members).Nodup) :
    SiblingsDistinct (hydrateMembers wildcard existing members) := by
  rwa [SiblingsDistinct, keys_hydrateMembers]

/-- The field of a member, next to the fields that were there before. -/
def hydrateIn (existing : List InstanceNode) (member : String × Json) : InstanceNode :=
  hydrateField wildcard member.1 (matching? wildcard existing member.1) member.2

theorem key_hydrateIn (existing : List InstanceNode) (member : String × Json) :
    (hydrateIn wildcard existing member).key = member.1 :=
  key_hydrateField wildcard _ _ _

theorem hydrateMembers_eq_map (existing : List InstanceNode) (members : List (String × Json)) :
    hydrateMembers wildcard existing members = members.map (hydrateIn wildcard existing) := by
  induction members with
  | nil => rfl
  | cons member rest inductionHypothesis =>
      rw [hydrateMembers, inductionHypothesis, List.map_cons, hydrateIn]

/-- A member finds the field that was rebuilt from it. -/
theorem matching?_hydrateMembers (existing : List InstanceNode) {members : List (String × Json)}
    (distinct : (Entries.names members).Nodup) {member : String × Json} (among : member ∈ members) :
    matching? wildcard (hydrateMembers wildcard existing members) member.1 =
      some (hydrateIn wildcard existing member) := by
  have rebuilt : hydrateIn wildcard existing member ∈ hydrateMembers wildcard existing members := by
    rw [hydrateMembers_eq_map]
    exact List.mem_map_of_mem among
  have found := matching?_key wildcard
    (siblingsDistinct_hydrateMembers wildcard existing distinct) rebuilt
  rwa [key_hydrateIn] at found

mutual

/-- A field that is rebuilt from the value it was rebuilt from before stays as it is. -/
theorem hydrateField_again (key : String) (existing : Option InstanceNode) :
    (value : Json) → value.NamesDistinct →
      hydrateField wildcard key (some (hydrateField wildcard key existing value)) value =
        hydrateField wildcard key existing value
  | .null, _ => rfl
  | .bool _, _ => rfl
  | .num _, _ => rfl
  | .str content, _ => by
      simp only [hydrateField, fresh, Option.map_some, scalarType_scalarType]
      rfl
  | .arr _, _ => rfl
  | .obj members, distinct => by
      have sameInside := hydrateMembers_again
        (fun _ => matching?_hydrateMembers wildcard ((existing.map (·.children)).getD []) distinct.1)
        distinct.2
      simp only [hydrateField, Option.map_some, Option.getD_some, sameInside]
      rfl

/-- Members that find the fields rebuilt from them leave these fields as they are. -/
theorem hydrateMembers_again {existing rebuilt : List InstanceNode} :
    {members : List (String × Json)} →
      (∀ member ∈ members,
        matching? wildcard rebuilt member.1 = some (hydrateIn wildcard existing member)) →
      Json.MembersDistinct members →
        hydrateMembers wildcard rebuilt members = hydrateMembers wildcard existing members
  | [], _, _ => rfl
  | (key, value) :: rest, found, distinct => by
      rw [List.forall_mem_cons] at found
      rw [hydrateMembers, hydrateMembers, found.1, hydrateIn,
        hydrateField_again key _ value distinct.1, hydrateMembers_again found.2 distinct.2]

end

end

end InstanceNode

/-- Rebuilding fields from a value a second time changes nothing. -/
theorem hydrate_hydrate [PatternEngine] (options : CompileOptions) {value : Json}
    (distinct : value.NamesDistinct) (existing : List InstanceNode) :
    hydrate options value (hydrate options value existing) = hydrate options value existing := by
  cases value with
  | obj members =>
      exact InstanceNode.hydrateMembers_again options.wildcard
        (fun _ => InstanceNode.matching?_hydrateMembers options.wildcard existing distinct.1)
        distinct.2
  | null => rfl
  | bool => rfl
  | num => rfl
  | str => rfl
  | arr => rfl

/-- A hidden address for which the schema has a template, a list of objects, and a text. -/
def contactFields : List InstanceNode :=
  [{ InstanceNode.fresh "mail_work" .email with
      enabled := false
      info := some { key := "mail_*", type := .email, isPattern := true } },
    { InstanceNode.fresh "phones" .array with
      childDef := some ⟨.object, some [.leaf { key := "country", type := .select }]⟩ },
    .fresh "note" .text]

/-- An address under another key of the template, a phone, and an object in place of the text. -/
def contactBody : Json :=
  .obj
    [("mail_home", .str "a@b.c"), ("phones", .arr [.obj [("country", .str "de")], .null]),
      ("note", .obj [("by", .null)])]

/-- The other address is hidden as well, and all this stays when the body is applied again. -/
theorem hydrate_hydrate_contact :
    contactBody.NamesDistinct ∧
      hydrate {} contactBody (hydrate {} contactBody contactFields) =
        [{ InstanceNode.fresh "mail_home" .email with
            value := .str "a@b.c"
            enabled := false
            info := some { key := "mail_*", type := .email, isPattern := true } },
          { InstanceNode.fresh "phones" .array with
            children :=
              [{ InstanceNode.fresh "" .object with
                  children :=
                    [{ InstanceNode.fresh "country" .select with
                      value := .str "de"
                      info := some { key := "country", type := .select } }] },
                .fresh "" .text]
            childDef := some ⟨.object, some [.leaf { key := "country", type := .select }]⟩ },
          { InstanceNode.fresh "note" .object with children := [.fresh "by" .text] }] := by
  have distinct : contactBody.NamesDistinct := by decide
  exact ⟨distinct, (hydrate_hydrate {} distinct contactFields).trans (by decide)⟩

end Formwork
