/-
This file shows that the schema inferred from an example accepts the example: the fields of the
example fit it at every level, so reconciling leaves all of them in place.
-/

import Formwork.Proofs.Reconcile.Compatible
import Formwork.Proofs.Reconcile.WellFormed
import Formwork.Proofs.Schema.Inferred
import Formwork.SizedEngine

namespace Formwork

namespace InstanceNode

mutual

/-- A field without the definition of its items and what the schema says, at every level. -/
def bare : InstanceNode → InstanceNode
  | ⟨key, type, value, enabled, children, _, _⟩ =>
      ⟨key, type, value, enabled, bareAll children, none, none⟩

def bareAll : List InstanceNode → List InstanceNode
  | [] => []
  | node :: rest => bare node :: bareAll rest

end

theorem bareAll_eq_map (nodes : List InstanceNode) : bareAll nodes = nodes.map bare := by
  induction nodes with
  | nil => rfl
  | cons node rest inductionHypothesis => rw [bareAll, inductionHypothesis, List.map_cons]

theorem bare_eq (node : InstanceNode) :
    bare node =
      { node with children := bareAll node.children, childDef := none, info := none } := by
  cases node
  rw [bare]

theorem bare_eq_self {node : InstanceNode} (noItems : node.childDef = none)
    (noInfo : node.info = none) (bareInside : bareAll node.children = node.children) :
    bare node = node := by
  rw [bare_eq, bareInside, ← noItems, ← noInfo]
  cases node
  rfl

/-- Well-formed scalars have nothing inside them, so contents leave out no fields. -/
theorem bare_eq_content {node : InstanceNode} (wellFormed : node.WellFormed) :
    bare node = content node := by
  induction node using InstanceNode.induction with
  | inside node inductionHypothesis =>
      have sameInside : bareAll node.children = contents node.children := by
        rw [bareAll_eq_map, contents_eq_map]
        exact List.map_congr_left fun child member =>
          inductionHypothesis child member (wellFormed.inside child member)
      rw [bare_eq, content_eq, sameInside]
      by_cases isScalar : node.shape = .scalar
      · rw [if_pos isScalar, wellFormed.holds.noneInside isScalar, contents]
      · rw [if_neg isScalar]

theorem bareAll_eq_contents {nodes : List InstanceNode}
    (wellFormed : ∀ node ∈ nodes, node.WellFormed) : bareAll nodes = contents nodes := by
  rw [bareAll_eq_map, contents_eq_map]
  exact List.map_congr_left fun node member => bare_eq_content (wellFormed node member)

variable [PatternEngine]

section

variable (wildcard : String)

mutual

/-- Without fields from before, a rebuilt field has only what the value gives it. -/
theorem bare_hydrateField (key : String) :
    (value : Json) →
      bare (hydrateField wildcard key none value) = hydrateField wildcard key none value
  | .null => rfl
  | .bool _ => rfl
  | .num _ => rfl
  | .str _ => rfl
  | .arr items => bare_eq_self rfl rfl (bareAll_hydrateItems items)
  | .obj members => bare_eq_self rfl rfl (bareAll_hydrateMembers members)

theorem bare_hydrateItem :
    (value : Json) → bare (hydrateItem wildcard none value) = hydrateItem wildcard none value
  | .null => rfl
  | .bool _ => rfl
  | .num _ => rfl
  | .str _ => rfl
  | .arr items => bare_eq_self rfl rfl (bareAll_hydrateItems items)
  | .obj members => bare_eq_self rfl rfl (bareAll_hydrateMembers members)

theorem bareAll_hydrateItems :
    (items : List Json) →
      bareAll (hydrateItems wildcard none items) = hydrateItems wildcard none items
  | [] => rfl
  | item :: rest => by
      rw [hydrateItems, bareAll, bare_hydrateItem item, bareAll_hydrateItems rest]

theorem bareAll_hydrateMembers :
    (members : List (String × Json)) →
      bareAll (hydrateMembers wildcard [] members) = hydrateMembers wildcard [] members
  | [] => rfl
  | (key, value) :: rest => by
      have unmatched : matching? wildcard [] key = none := rfl
      rw [hydrateMembers, bareAll, unmatched, bare_hydrateField key value,
        bareAll_hydrateMembers rest]

end

/-- The inferred field of a member has the shape of the field rebuilt from it. -/
theorem agrees_ofMember (key : String) (value : Json) :
    Agrees (some (SchemaNode.ofMember wildcard key value)) (hydrateField wildcard key none value) := by
  intro schema isCounterpart
  rw [← Option.some.inj isCounterpart]
  cases value with
  | arr items =>
      cases items with
      | nil => rfl
      | cons first rest =>
          cases nested : SchemaNode.isNested first with
          | true =>
              simp only [SchemaNode.ofMember, List.head?_cons, nested]
              rfl
          | false =>
              simp only [SchemaNode.ofMember, List.head?_cons, nested]
              rfl
  | null => rfl
  | bool => rfl
  | num => rfl
  | str => rfl
  | obj => rfl

/-- In an inferred schema a member finds the field that was inferred from it. -/
theorem counterpart?_ofMembers {members : List (String × Json)}
    (distinct : Json.NamesDistinct (.obj members)) {member : String × Json}
    (among : member ∈ members) :
    SchemaNode.counterpart? wildcard (SchemaNode.ofMembers wildcard members) member.1 =
      some (SchemaNode.ofMember wildcard member.1 member.2) := by
  have inferred :
      SchemaNode.ofMember wildcard member.1 member.2 ∈ SchemaNode.ofMembers wildcard members := by
    rw [SchemaNode.ofMembers_eq_map]
    exact List.mem_map_of_mem among
  have found := SchemaNode.counterpart?_key_of_mem wildcard
    (SchemaNode.allKeysDistinct_ofExample wildcard distinct) inferred
  rwa [SchemaNode.key_ofMember] at found

mutual

/-- The field of a member fits what is inferred from the member, with all that objects open. -/
theorem fits_hydrateField (key : String) :
    (value : Json) → value.NamesDistinct →
      Throughout Fits wildcard (some (SchemaNode.ofMember wildcard key value))
        (hydrateField wildcard key none value)
  | .null, _ => ⟨⟨agrees_ofMember wildcard key .null, nofun⟩, nofun⟩
  | .bool flag, _ => ⟨⟨agrees_ofMember wildcard key (.bool flag), nofun⟩, nofun⟩
  | .num number, _ => ⟨⟨agrees_ofMember wildcard key (.num number), nofun⟩, nofun⟩
  | .str text, _ => ⟨⟨agrees_ofMember wildcard key (.str text), nofun⟩, nofun⟩
  | .arr items, _ => ⟨⟨agrees_ofMember wildcard key (.arr items), nofun⟩, nofun⟩
  | .obj members, distinct => by
      rw [throughout_iff]
      refine ⟨⟨agrees_ofMember wildcard key (.obj members), fun _ noFields => ?_⟩, fun _ => ?_⟩
      · cases members with
        | nil => rfl
        | cons => cases noFields
      · exact fits_hydrateMembers (fun _ => counterpart?_ofMembers wildcard distinct) distinct.2

/-- Members fit any schema that has for each of them what is inferred from it. -/
theorem fits_hydrateMembers {schema : List SchemaNode} :
    {members : List (String × Json)} →
      (∀ member ∈ members,
        SchemaNode.counterpart? wildcard schema member.1 =
          some (SchemaNode.ofMember wildcard member.1 member.2)) →
      Json.MembersDistinct members →
        AllThroughout Fits wildcard schema (hydrateMembers wildcard [] members)
  | [], _, _ => trivial
  | (key, value) :: rest, found, distinct => by
      rw [List.forall_mem_cons] at found
      rw [hydrateMembers, AllThroughout, key_hydrateField, found.1]
      exact ⟨fits_hydrateField key value distinct.1, fits_hydrateMembers found.2 distinct.2⟩

end

end

end InstanceNode

/-- The schema inferred from an object leaves the fields of the object in place, with nothing but
definitions of items and what the schema says added, because all of them fit it. -/
theorem reconcile_ofExample [PatternEngine] (options : CompileOptions)
    {members : List (String × Json)} (distinct : Json.NamesDistinct (.obj members)) :
    let schema := SchemaNode.ofExample options.wildcard (.obj members)
    let fields := hydrate options (.obj members) []
    InstanceNode.bareAll (reconcile options schema fields) = fields ∧
      payload (reconcile options schema fields) = payload fields ∧
        InstanceNode.AllThroughout InstanceNode.Fits options.wildcard schema fields := by
  intro schema fields
  have fits : InstanceNode.AllThroughout InstanceNode.Fits options.wildcard schema fields :=
    InstanceNode.fits_hydrateMembers options.wildcard
      (fun _ => InstanceNode.counterpart?_ofMembers options.wildcard distinct) distinct.2
  have sameContents :
      InstanceNode.contents (reconcile options schema fields) = InstanceNode.contents fields := by
    rw [reconcile, InstanceNode.contents_reconcileFields_eq_iff]
    refine ⟨fun noFields => ?_, fits⟩
    have noMembers : members = [] := by
      cases members with
      | nil => rfl
      | cons => exact absurd noFields (List.cons_ne_nil _ _)
    exact congrArg (SchemaNode.ofMembers options.wildcard) noMembers
  have wellFormed : InstanceNode.AllWellFormed fields :=
    ⟨InstanceNode.siblingsDistinct_hydrateMembers options.wildcard [] distinct.1,
      InstanceNode.wellFormed_hydrateMembers options.wildcard (List.forall_mem_nil _) members
        distinct.2⟩
  have stillWellFormed : InstanceNode.AllWellFormed (reconcile options schema fields) :=
    InstanceNode.allWellFormed_reconcileFields options.wildcard
      (SchemaNode.allKeysDistinct_ofExample options.wildcard distinct) wellFormed
  refine ⟨?_, InstanceNode.payload_eq_of_contents_eq sameContents, fits⟩
  calc InstanceNode.bareAll (reconcile options schema fields)
      _ = InstanceNode.contents (reconcile options schema fields) :=
        InstanceNode.bareAll_eq_contents stillWellFormed.2
      _ = InstanceNode.contents fields := sameContents
      _ = InstanceNode.bareAll fields := (InstanceNode.bareAll_eq_contents wellFormed.2).symm
      _ = fields := InstanceNode.bareAll_hydrateMembers options.wildcard members

/-- An example with a template among its names, nothing in some places and lists inside lists. -/
def profileExample : List (String × Json) :=
  [("lang_*", .null), ("lang_en", .str "Hello"), ("meta", .obj []), ("tags", .arr []),
    ("rows", .arr [.arr [.obj [("cell", .bool true)]], .null]),
    ("people", .arr [.obj [("name", .str "Ann")], .obj [("age", .null)]]),
    ("home", .obj [("zip", .null), ("flags", .arr [.bool false, .obj []])])]

/-- Each field of the example stays, also those that stand for nothing and those of later items. -/
theorem reconcile_ofExample_profile :
    Json.NamesDistinct (.obj profileExample) ∧
      payload (reconcile {} (SchemaNode.ofExample "*" (.obj profileExample))
          (hydrate {} (.obj profileExample) [])) =
        .obj
          [("lang_*", .str ""), ("lang_en", .str "Hello"), ("meta", .obj []), ("tags", .arr []),
            ("rows", .arr [.arr [.obj [("cell", .bool true)]], .str ""]),
            ("people", .arr [.obj [("name", .str "Ann")], .obj [("age", .str "")]]),
            ("home", .obj [("zip", .str ""), ("flags", .arr [.bool false, .obj []])])] := by
  have distinct : Json.NamesDistinct (.obj profileExample) := by decide
  exact ⟨distinct, (reconcile_ofExample {} distinct).2.1.trans (by decide)⟩

end Formwork
