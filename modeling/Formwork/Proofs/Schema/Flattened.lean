/-
This file flattens an example object to entries at dotted paths, and shows which branches they grow:
one for each member, with what describes its value below it.
-/

import Formwork.Proofs.Json.EachName
import Formwork.Proofs.Schema.Inferred
import Formwork.Proofs.Schema.Siblings

namespace Formwork

/-- A text that can stand between the points of a path. -/
def IsSegment (text : String) : Prop :=
  text ≠ "" ∧ '.' ∉ text.toList

instance : DecidablePred IsSegment :=
  fun _ => inferInstanceAs (Decidable (_ ∧ _))

/-- A node that only has a key and a type. -/
def SchemaNode.typed (key : String) (type : FieldType) : SchemaNode :=
  .leaf { key := key, type := type }

namespace Json

variable (wildcard : String)

/-- A leaf behind one more segment. -/
def under (segment : String) (place : List String × SchemaNode) : List String × SchemaNode :=
  (segment :: place.1, place.2)

mutual

/-- The leaves of a value at a key, each behind the segments that lead to it from there. A list is
described by its first item, which stands behind the wildcard. -/
def leavesAt (key : String) : Json → List (List String × SchemaNode)
  | .obj members => ([], .typed key .object) :: leavesOfMembers members
  | .arr items =>
      (if items.head?.any SchemaNode.isNested then [] else [([], .typed key .array)]) ++
        leavesOfFirst items
  | value => [([], .typed key (.ofExample value))]

def leavesOfFirst : List Json → List (List String × SchemaNode)
  | [] => []
  | first :: _ => (leavesAt wildcard first).map (under wildcard)

def leavesOfMembers : List (String × Json) → List (List String × SchemaNode)
  | [] => []
  | (name, value) :: rest => (leavesAt name value).map (under name) ++ leavesOfMembers rest

end

/-- A leaf at the dotted path of its segments. -/
def dotted (place : List String × SchemaNode) : String × SchemaNode :=
  (".".intercalate place.1, place.2)

/-- The entries that an object is flattened to. -/
def flatten (members : List (String × Json)) : Entries SchemaNode :=
  (leavesOfMembers wildcard members).map dotted

end Json

namespace PathTree

/-- The branches after leaves are planted among them one after the other. -/
def plantAll (leaves : List (List String × SchemaNode)) (branches : List PathTree) :
    List PathTree :=
  leaves.foldl (fun branches place => plant place.2 place.1 branches) branches

/-- The branch after leaves are planted from it one after the other. -/
def growAll (leaves : List (List String × SchemaNode)) (branch : PathTree) : PathTree :=
  leaves.foldl (fun branch place => grow place.2 place.1 branch) branch

theorem plantAll_append (first second : List (List String × SchemaNode))
    (branches : List PathTree) :
    plantAll (first ++ second) branches = plantAll second (plantAll first branches) :=
  List.foldl_append

/-- Leaves behind segments leave the leaf of the branch as it is. -/
theorem growAll_of_behind {leaves : List (List String × SchemaNode)}
    (behind : ∀ place ∈ leaves, place.1 ≠ []) (branch : PathTree) :
    growAll leaves branch = { branch with children := plantAll leaves branch.children } := by
  induction leaves generalizing branch with
  | nil =>
      cases branch
      rfl
  | cons place rest inductionHypothesis =>
      rw [List.forall_mem_cons] at behind
      have below : grow place.2 place.1 branch =
          { branch with children := plant place.2 place.1 branch.children } := by
        rw [grow, if_neg (by simpa using behind.1)]
      rw [growAll, List.foldl_cons, ← growAll, inductionHypothesis behind.2, below]
      rfl

theorem changeAt_of_new {segment : String} {change : PathTree → PathTree}
    {branches : List PathTree} (new : segment ∉ branches.map (·.key)) :
    changeAt segment change branches = branches ++ [change { key := segment }] := by
  induction branches with
  | nil => rfl
  | cons branch rest inductionHypothesis =>
      rw [List.map_cons, List.mem_cons, not_or] at new
      rw [changeAt, if_neg fun same => new.1 same.symm, inductionHypothesis new.2, List.cons_append]

theorem changeAt_append_of_new {segment : String} {change : PathTree → PathTree}
    {branches : List PathTree} (new : segment ∉ branches.map (·.key)) {branch : PathTree}
    (isKey : branch.key = segment) :
    changeAt segment change (branches ++ [branch]) = branches ++ [change branch] := by
  induction branches with
  | nil => rw [List.nil_append, changeAt, if_pos isKey, List.nil_append]
  | cons first rest inductionHypothesis =>
      rw [List.map_cons, List.mem_cons, not_or] at new
      rw [List.cons_append, changeAt, if_neg fun same => new.1 same.symm,
        inductionHypothesis new.2, List.cons_append]

/-- Leaves behind a segment of a branch go on to grow the branch. -/
theorem plantAll_under_of_last {segment : String} {branches : List PathTree}
    (new : segment ∉ branches.map (·.key)) (leaves : List (List String × SchemaNode))
    {branch : PathTree} (isKey : branch.key = segment) :
    plantAll (leaves.map (Json.under segment)) (branches ++ [branch]) =
      branches ++ [growAll leaves branch] := by
  induction leaves generalizing branch with
  | nil => rfl
  | cons place rest inductionHypothesis =>
      have stillKey : (grow place.2 place.1 branch).key = segment := (key_grow _ _ _).trans isKey
      rw [List.map_cons, plantAll, List.foldl_cons, ← plantAll, Json.under, plant_cons,
        changeAt_append_of_new new isKey, inductionHypothesis stillKey]
      rfl

/-- Leaves behind a new segment grow one branch, which is last. -/
theorem plantAll_under {segment : String} {branches : List PathTree}
    (new : segment ∉ branches.map (·.key)) {leaves : List (List String × SchemaNode)}
    (nonempty : leaves ≠ []) :
    plantAll (leaves.map (Json.under segment)) branches =
      branches ++ [growAll leaves { key := segment }] := by
  obtain ⟨place, rest, rfl⟩ := List.exists_cons_of_ne_nil nonempty
  have isKey : (grow place.2 place.1 { key := segment }).key = segment := key_grow _ _ _
  rw [List.map_cons, plantAll, List.foldl_cons, ← plantAll, Json.under, plant_cons,
    changeAt_of_new new, plantAll_under_of_last new rest isKey]
  rfl

section

variable (wildcard : String)

mutual

/-- The branch that a value at a key grows. -/
def ofValue (key : String) : Json → PathTree
  | .obj members => ⟨key, some (.typed key .object), ofMembers members⟩
  | .arr items =>
      ⟨key, if items.head?.any SchemaNode.isNested then none else some (.typed key .array),
        ofFirst items⟩
  | value => ⟨key, some (.typed key (.ofExample value)), []⟩

def ofFirst : List Json → List PathTree
  | [] => []
  | first :: _ => [ofValue wildcard first]

def ofMembers : List (String × Json) → List PathTree
  | [] => []
  | (name, value) :: rest => ofValue name value :: ofMembers rest

end

theorem key_ofValue (key : String) (value : Json) : (ofValue wildcard key value).key = key := by
  cases value <;> rfl

theorem keys_ofMembers (members : List (String × Json)) :
    (ofMembers wildcard members).map (·.key) = Entries.names members := by
  induction members with
  | nil => rfl
  | cons member rest inductionHypothesis =>
      rw [ofMembers, List.map_cons, key_ofValue, inductionHypothesis]
      rfl

mutual

theorem leavesAt_ne_nil (key : String) : (value : Json) → Json.leavesAt wildcard key value ≠ []
  | .obj _ => List.cons_ne_nil _ _
  | .arr items => by
      rw [Json.leavesAt]
      cases nested : items.head?.any SchemaNode.isNested with
      | false => exact List.cons_ne_nil _ _
      | true =>
          have nonempty : items ≠ [] := by
            rintro rfl
            cases nested
          exact leavesOfFirst_ne_nil items nonempty
  | .null => List.cons_ne_nil _ _
  | .bool _ => List.cons_ne_nil _ _
  | .num _ => List.cons_ne_nil _ _
  | .str _ => List.cons_ne_nil _ _

theorem leavesOfFirst_ne_nil :
    (items : List Json) → items ≠ [] → Json.leavesOfFirst wildcard items ≠ []
  | [], nonempty => absurd rfl nonempty
  | first :: _, _ => by
      rw [Json.leavesOfFirst, Ne, List.map_eq_nil_iff]
      exact leavesAt_ne_nil wildcard first

end

theorem behind_leavesOfFirst (items : List Json) :
    ∀ place ∈ Json.leavesOfFirst wildcard items, place.1 ≠ [] := by
  cases items with
  | nil => nofun
  | cons first rest =>
      rw [Json.leavesOfFirst, List.forall_mem_map]
      exact fun _ _ => List.cons_ne_nil _ _

theorem behind_leavesOfMembers (members : List (String × Json)) :
    ∀ place ∈ Json.leavesOfMembers wildcard members, place.1 ≠ [] := by
  induction members with
  | nil => nofun
  | cons member rest inductionHypothesis =>
      rw [Json.leavesOfMembers, List.forall_mem_append, List.forall_mem_map]
      exact ⟨fun _ _ => List.cons_ne_nil _ _, inductionHypothesis⟩

mutual

/-- The leaves of a value grow its branch. -/
theorem growAll_leavesAt (key : String) :
    (value : Json) → value.NamesDistinct →
      growAll (Json.leavesAt wildcard key value) { key := key } = ofValue wildcard key value
  | .obj members, distinct => by
      rw [Json.leavesAt, growAll, List.foldl_cons, ← growAll,
        growAll_of_behind (behind_leavesOfMembers wildcard members)]
      have below := plantAll_leavesOfMembers [] members distinct.1 distinct.2
      rw [ofValue, ← List.nil_append (ofMembers wildcard members), ← below]
      rfl
  | .arr items, distinct => by
      have below := plantAll_leavesOfFirst items distinct
      rw [Json.leavesAt, ofValue, ← below]
      -- a list of objects has no leaf of its own, only the one behind the wildcard
      cases items.head?.any SchemaNode.isNested with
      | false =>
          exact growAll_of_behind (behind_leavesOfFirst wildcard items)
            { key := key, leaf := some (.typed key .array) }
      | true => exact growAll_of_behind (behind_leavesOfFirst wildcard items) { key := key }
  | .null, _ => rfl
  | .bool _, _ => rfl
  | .num _, _ => rfl
  | .str _, _ => rfl

theorem plantAll_leavesOfFirst :
    (items : List Json) → Json.ItemsDistinct items →
      plantAll (Json.leavesOfFirst wildcard items) [] = ofFirst wildcard items
  | [], _ => rfl
  | first :: _, distinct => by
      rw [Json.leavesOfFirst, plantAll_under List.not_mem_nil (leavesAt_ne_nil wildcard _ first),
        growAll_leavesAt wildcard first distinct.1]
      rfl

theorem plantAll_leavesOfMembers (branches : List PathTree) :
    (members : List (String × Json)) → (branches.map (·.key) ++ Entries.names members).Nodup →
      Json.MembersDistinct members →
      plantAll (Json.leavesOfMembers wildcard members) branches =
        branches ++ ofMembers wildcard members
  | [], _, _ => (List.append_nil branches).symm
  | (name, value) :: rest, distinct, inside => by
      -- the branch of this member stands behind the others when the rest is planted
      have new : name ∉ branches.map (·.key) := by
        intro old
        exact (List.nodup_append.mp distinct).2.2 name old name List.mem_cons_self rfl
      have distinctAfter :
          ((branches ++ [ofValue wildcard name value]).map (·.key) ++ Entries.names rest).Nodup := by
        rw [List.map_append, List.map_singleton, key_ofValue, List.append_assoc]
        exact distinct
      rw [Json.leavesOfMembers, plantAll_append, plantAll_under new (leavesAt_ne_nil wildcard _ value),
        growAll_leavesAt name value inside.1,
        plantAll_leavesOfMembers _ rest distinctAfter inside.2, List.append_assoc]
      rfl

end

end

section

variable {wildcard : String} {holds : String → Prop}

mutual

/-- The segments before leaves are wildcards and names. -/
theorem segments_leavesAt (ofWildcard : holds wildcard) (key : String) :
    (value : Json) → value.EachName holds →
      ∀ place ∈ Json.leavesAt wildcard key value, ∀ segment ∈ place.1, holds segment
  | .obj members, named => by
      rw [Json.leavesAt, List.forall_mem_cons]
      exact ⟨nofun, segments_leavesOfMembers ofWildcard members named⟩
  | .arr items, named => by
      rw [Json.leavesAt, List.forall_mem_append]
      refine ⟨?_, segments_leavesOfFirst ofWildcard items named⟩
      split
      · nofun
      · exact List.forall_mem_singleton.mpr nofun
  | .null, _ => List.forall_mem_singleton.mpr nofun
  | .bool _, _ => List.forall_mem_singleton.mpr nofun
  | .num _, _ => List.forall_mem_singleton.mpr nofun
  | .str _, _ => List.forall_mem_singleton.mpr nofun

theorem segments_leavesOfFirst (ofWildcard : holds wildcard) :
    (items : List Json) → Json.ItemsEachName holds items →
      ∀ place ∈ Json.leavesOfFirst wildcard items, ∀ segment ∈ place.1, holds segment
  | [], _ => nofun
  | first :: _, named => by
      rw [Json.leavesOfFirst, List.forall_mem_map]
      intro place member
      exact List.forall_mem_cons.mpr
        ⟨ofWildcard, segments_leavesAt ofWildcard wildcard first named.1 place member⟩

theorem segments_leavesOfMembers (ofWildcard : holds wildcard) :
    (members : List (String × Json)) → Json.MembersEachName holds members →
      ∀ place ∈ Json.leavesOfMembers wildcard members, ∀ segment ∈ place.1, holds segment
  | [], _ => nofun
  | (name, value) :: rest, named => by
      rw [Json.leavesOfMembers, List.forall_mem_append, List.forall_mem_map]
      refine ⟨fun place member => ?_, segments_leavesOfMembers ofWildcard rest named.2.2⟩
      exact List.forall_mem_cons.mpr
        ⟨named.1, segments_leavesAt ofWildcard name value named.2.1 place member⟩

end

end

/-- A dotted path is cut into the segments that it was joined from. -/
theorem insert_intercalate {parts : List String} (nonempty : parts ≠ [])
    (each : ∀ part ∈ parts, IsSegment part) (branches : List PathTree) (leaf : SchemaNode) :
    insert branches (".".intercalate parts) leaf = plant leaf parts branches := by
  have cut : segments (".".intercalate parts) = parts :=
    Text.pieces_joined rfl nonempty fun part member => (each part member).2
  have notEmpty : (".".intercalate parts).isEmpty = false := by
    rw [← Bool.not_eq_true, String.isEmpty_iff]
    intro noText
    obtain ⟨part, rest, rfl⟩ := List.exists_cons_of_ne_nil nonempty
    rw [noText] at cut
    exact (each part List.mem_cons_self).1 (List.cons.inj cut).1.symm
  rw [insert, notEmpty, cut]
  rfl

theorem ofEntries_dotted {leaves : List (List String × SchemaNode)}
    (each : ∀ place ∈ leaves, place.1 ≠ [] ∧ ∀ segment ∈ place.1, IsSegment segment) :
    ofEntries (leaves.map Json.dotted) = plantAll leaves [] := by
  induction leaves using List.reverseRecOn with
  | nil => rfl
  | append_singleton leaves place inductionHypothesis =>
      rw [List.forall_mem_append, List.forall_mem_singleton] at each
      rw [List.map_append, List.map_singleton, Json.dotted, ofEntries_append,
        inductionHypothesis each.1, insert_intercalate each.2.1 each.2.2, plantAll_append]
      rfl

/-- The entries of an object grow the branches of its members. -/
theorem ofEntries_flatten {wildcard : String} (ofWildcard : IsSegment wildcard)
    {members : List (String × Json)} (distinct : Json.NamesDistinct (.obj members))
    (named : Json.EachName IsSegment (.obj members)) :
    ofEntries (Json.flatten wildcard members) = ofMembers wildcard members := by
  have segments := segments_leavesOfMembers ofWildcard members named
  have grown := plantAll_leavesOfMembers wildcard [] members distinct.1 distinct.2
  rw [Json.flatten, ofEntries_dotted fun place member =>
    ⟨behind_leavesOfMembers wildcard members place member, segments place member⟩]
  exact grown

end PathTree

end Formwork
