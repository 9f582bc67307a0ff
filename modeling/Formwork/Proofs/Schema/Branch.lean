/-
This file shows which branches the leaves of a schema grow: one at every beginning of a path, with
the leaf that was planted there.
-/

import Formwork.Proofs.Schema.Grown

namespace Formwork

theorem Text.pieces_injective (separator : Char) : Function.Injective (pieces separator) := by
  intro left right same
  rw [← intercalate_pieces separator left, same, intercalate_pieces]

namespace PathTree

/-- A path is its segments with points between them. -/
theorem segments_injective : Function.Injective segments := by
  intro left right same
  have samePieces : Text.pieces '.' left.toList = Text.pieces '.' right.toList :=
    (List.map_inj_right fun _ _ => String.ofList_inj.mp).mp same
  exact String.toList_inj.mp (Text.pieces_injective '.' samePieces)

theorem segments_ne_nil (path : String) : segments path ≠ [] := by
  rw [segments, Ne, List.map_eq_nil_iff]
  exact Text.pieces_ne_nil '.' path.toList

/-- The branch that segments lead to. -/
def branchAt? : List String → List PathTree → Option PathTree
  | [], _ => none
  | [segment], branches => branches.find? (·.key = segment)
  | segment :: next :: rest, branches =>
      (branches.find? (·.key = segment)).bind fun branch =>
        branchAt? (next :: rest) branch.children

theorem branchAt?_cons (segment : String) {rest : List String} (more : rest ≠ [])
    (branches : List PathTree) :
    branchAt? (segment :: rest) branches =
      (branches.find? (·.key = segment)).bind fun branch => branchAt? rest branch.children := by
  cases rest with
  | nil => contradiction
  | cons next rest => rfl

theorem branchAt?_nil (segments : List String) : branchAt? segments [] = none := by
  cases segments with
  | nil => rfl
  | cons segment rest => cases rest <;> rfl

theorem branchAt?_cons_of_find? {segment : String} {rest : List String} (more : rest ≠ [])
    {branches : List PathTree} {branch : PathTree}
    (found : branches.find? (·.key = segment) = some branch) :
    branchAt? (segment :: rest) branches = branchAt? rest branch.children := by
  rw [branchAt?_cons segment more, found, Option.bind_some]

/-- Only some segments lead to a branch, and only among some branches. -/
theorem ne_nil_of_branchAt? {segments : List String} {branches : List PathTree}
    (found : (branchAt? segments branches).isSome) : segments ≠ [] ∧ branches ≠ [] := by
  constructor
  · rintro rfl
    cases found
  · rintro rfl
    rw [branchAt?_nil] at found
    cases found

theorem isSome_find?_of_branchAt? {segment : String} {rest : List String} {branches : List PathTree}
    (found : (branchAt? (segment :: rest) branches).isSome) :
    (branches.find? (·.key = segment)).isSome := by
  cases rest with
  | nil => exact found
  | cons next rest => exact Option.isSome_of_isSome_bind found

theorem branchAt?_append {segments rest : List String} (some : segments ≠ []) (more : rest ≠ [])
    (branches : List PathTree) :
    branchAt? (segments ++ rest) branches =
      (branchAt? segments branches).bind fun branch => branchAt? rest branch.children := by
  induction segments generalizing branches with
  | nil => contradiction
  | cons segment others inductionHypothesis =>
      rw [List.cons_append, branchAt?_cons segment (by simp [more])]
      cases others with
      | nil => rfl
      | cons next others =>
          rw [branchAt?_cons segment (List.cons_ne_nil _ _), Option.bind_assoc]
          simp only [inductionHypothesis (List.cons_ne_nil _ _)]

/-- Nothing is below a branch if no segments lead on from it. -/
theorem children_eq_nil_of_branchAt? {segments : List String} {branches : List PathTree}
    {branch : PathTree} (found : branchAt? segments branches = some branch)
    (last : ∀ next, branchAt? (segments ++ [next]) branches = none) : branch.children = [] := by
  have nonempty : segments ≠ [] := (ne_nil_of_branchAt? (Option.isSome_of_mem found)).1
  cases below : branch.children with
  | nil => rfl
  | cons child rest =>
      have here := last child.key
      rw [branchAt?_append nonempty (List.cons_ne_nil _ _), found, Option.bind_some, below,
        branchAt?, List.find?_cons_of_pos (by simp)] at here
      cases here

theorem find?_changeAt {segment : String} {change : PathTree → PathTree}
    (sameKey : ∀ branch, (change branch).key = branch.key) (key : String)
    (branches : List PathTree) :
    (changeAt segment change branches).find? (·.key = key) =
      if key = segment then
        some (change ((branches.find? (·.key = segment)).getD { key := segment }))
      else branches.find? (·.key = key) := by
  induction branches with
  | nil =>
      by_cases here : key = segment
      · simp [changeAt, sameKey, here]
      · have elsewhere : segment ≠ key := fun same => here same.symm
        simp [changeAt, sameKey, here, elsewhere]
  | cons branch rest inductionHypothesis =>
      rw [changeAt]
      by_cases isBranch : branch.key = segment
      · rw [if_pos isBranch, List.find?_cons, List.find?_cons, List.find?_cons, sameKey, isBranch]
        by_cases here : key = segment
        · simp [here]
        · have elsewhere : segment ≠ key := fun same => here same.symm
          simp [here, elsewhere]
      · rw [if_neg isBranch, List.find?_cons, inductionHypothesis]
        by_cases here : key = segment
        · simp [here, isBranch]
        · simp [here, List.find?_cons]

theorem branchAt?_changeAt {segment : String} {change : PathTree → PathTree}
    (sameKey : ∀ branch, (change branch).key = branch.key) (key : String) {rest : List String}
    (more : rest ≠ []) (branches : List PathTree) :
    branchAt? (key :: rest) (changeAt segment change branches) =
      if key = segment then
        branchAt? rest (change ((branches.find? (·.key = segment)).getD { key := segment })).children
      else branchAt? (key :: rest) branches := by
  rw [branchAt?_cons key more, branchAt?_cons key more, find?_changeAt sameKey]
  split <;> rfl

/-- A new branch has nothing below it. -/
theorem branchAt?_children_getD (segment : String) (rest : List String) (old : Option PathTree) :
    branchAt? rest (old.getD { key := segment }).children =
      old.bind fun branch => branchAt? rest branch.children := by
  cases old with
  | none => exact branchAt?_nil rest
  | some branch => rfl

theorem leaf_getD (segment : String) (old : Option PathTree) :
    (old.getD { key := segment }).leaf = old.bind (·.leaf) := by
  cases old <;> rfl

/-- Planting a leaf puts it at the end of its segments and makes branches on the way there. -/
theorem leaf_branchAt?_plant (leaf : SchemaNode) {segments other : List String}
    (planted : segments ≠ []) (asked : other ≠ []) (branches : List PathTree) :
    (branchAt? other (plant leaf segments branches)).map (·.leaf) =
      if other = segments then some (some leaf)
      else if other <+: segments then some ((branchAt? other branches).bind (·.leaf))
      else (branchAt? other branches).map (·.leaf) := by
  induction segments generalizing other branches with
  | nil => contradiction
  | cons segment rest inductionHypothesis =>
      obtain ⟨key, others, rfl⟩ := List.exists_cons_of_ne_nil asked
      cases rest with
      | nil =>
          have sameKey (branch : PathTree) : { branch with leaf := some leaf }.key = branch.key := rfl
          rw [plant]
          cases others with
          | nil =>
              rw [branchAt?, find?_changeAt sameKey]
              by_cases here : key = segment <;> simp [here, branchAt?]
          | cons next others =>
              rw [branchAt?_changeAt sameKey key (List.cons_ne_nil _ _), branchAt?_children_getD]
              by_cases here : key = segment <;> simp [here, branchAt?_cons]
      | cons second rest =>
          have sameKey (branch : PathTree) :
              { branch with children := plant leaf (second :: rest) branch.children }.key =
                branch.key := rfl
          rw [plant]
          cases others with
          | nil =>
              rw [branchAt?, find?_changeAt sameKey]
              by_cases here : key = segment <;> simp [here, branchAt?, leaf_getD]
          | cons next others =>
              rw [branchAt?_changeAt sameKey key (List.cons_ne_nil _ _)]
              by_cases here : key = segment
              · rw [if_pos here, inductionHypothesis (List.cons_ne_nil _ _) (List.cons_ne_nil _ _),
                  branchAt?_children_getD, ← here, branchAt?_cons key (List.cons_ne_nil _ _)]
                simp
              · simp [here]

section

variable {asked : List String} (some : asked ≠ [])
include some

/-- An entry makes branches at the beginnings of its path. -/
theorem isSome_branchAt?_insert (path : String) (leaf : SchemaNode) (branches : List PathTree) :
    (branchAt? asked (insert branches path leaf)).isSome ↔
      (branchAt? asked branches).isSome ∨ path ≠ "" ∧ asked <+: segments path := by
  rw [insert]
  by_cases unnamed : path = ""
  · simp [unnamed]
  · have planted := leaf_branchAt?_plant leaf (segments_ne_nil path) some branches
    have sameSome := congrArg Option.isSome planted
    rw [Option.isSome_map] at sameSome
    rw [if_neg (by simpa using unnamed), sameSome]
    by_cases isPath : asked = segments path
    · simp [isPath, unnamed]
    · by_cases onTheWay : asked <+: segments path <;> simp [isPath, onTheWay, unnamed]

/-- Branches are at the beginnings of paths, and nowhere else. -/
theorem isSome_branchAt?_foldl_insert (entries : Entries SchemaNode)
    (branches : List PathTree) :
    (branchAt? asked
        (entries.foldl (fun branches (path, leaf) => insert branches path leaf) branches)).isSome ↔
      (branchAt? asked branches).isSome ∨
        ∃ path ∈ entries.names, path ≠ "" ∧ asked <+: segments path := by
  rw [Entries.names]
  induction entries generalizing branches with
  | nil => simp
  | cons entry rest inductionHypothesis =>
      rw [List.foldl_cons, inductionHypothesis, isSome_branchAt?_insert some]
      simp [or_assoc]

end

theorem leaf_branchAt?_insert_self {path : String} (named : path ≠ "") (leaf : SchemaNode)
    (branches : List PathTree) :
    (branchAt? (segments path) (insert branches path leaf)).map (·.leaf) = some (some leaf) := by
  have isNamed : ¬path.isEmpty := by simpa using named
  rw [insert, if_neg isNamed, leaf_branchAt?_plant leaf (segments_ne_nil path)
    (segments_ne_nil path), if_pos rfl]

/-- A leaf stays when an entry for another path is inserted. -/
theorem leaf_branchAt?_insert_of_ne {path other : String} (differ : path ≠ other)
    {leaf : SchemaNode} (otherLeaf : SchemaNode) {branches : List PathTree}
    (present : (branchAt? (segments path) branches).map (·.leaf) = some (some leaf)) :
    (branchAt? (segments path) (insert branches other otherLeaf)).map (·.leaf) =
      some (some leaf) := by
  rw [insert]
  split
  · exact present
  · have elsewhere : segments path ≠ segments other := fun same => differ (segments_injective same)
    obtain ⟨branch, found, isLeaf⟩ := Option.map_eq_some_iff.mp present
    rw [leaf_branchAt?_plant otherLeaf (segments_ne_nil other) (segments_ne_nil path),
      if_neg elsewhere, found]
    simp [isLeaf]

/-- A leaf that is the only one for its path is found there. -/
theorem leaf_branchAt?_foldl_insert {path : String} {leaf : SchemaNode} (named : path ≠ "")
    {entries : List (String × SchemaNode)}
    (only : ∀ entry ∈ entries, entry.1 = path → entry.2 = leaf) {branches : List PathTree}
    (present : (path, leaf) ∈ entries ∨
      (branchAt? (segments path) branches).map (·.leaf) = some (some leaf)) :
    (branchAt? (segments path)
        (entries.foldl (fun branches (path, leaf) => insert branches path leaf) branches)).map
      (·.leaf) = some (some leaf) := by
  induction entries generalizing branches with
  | nil => exact present.resolve_left List.not_mem_nil
  | cons entry rest inductionHypothesis =>
      obtain ⟨other, otherLeaf⟩ := entry
      rw [List.forall_mem_cons] at only
      apply inductionHypothesis only.2
      by_cases isPath : other = path
      · have isLeaf : otherLeaf = leaf := only.1 isPath
        rw [isPath, isLeaf]
        exact .inr (leaf_branchAt?_insert_self named leaf branches)
      · refine present.imp (fun member => ?_) (leaf_branchAt?_insert_of_ne (Ne.symm isPath) otherLeaf)
        exact (List.mem_cons.mp member).resolve_left fun same => isPath (congrArg Prod.fst same).symm

end PathTree

end Formwork
