/-
This file defines the branches that planting leaves makes grow: siblings have distinct segments, and
all leaves have the property of the planted ones.
-/

import Formwork.Schema.Tree

namespace Formwork

namespace PathTree

/-- What holds of a branch if it holds of all branches below it holds of every branch. -/
@[elab_as_elim]
theorem induction {motive : PathTree → Prop}
    (below : ∀ branch : PathTree, (∀ child ∈ branch.children, motive child) → motive branch) :
    ∀ branch, motive branch
  | ⟨key, leaf, children⟩ =>
      below ⟨key, leaf, children⟩ fun child member => by
        have smaller : sizeOf child < sizeOf children := List.sizeOf_lt_of_mem member
        have deeper : sizeOf children < sizeOf (⟨key, leaf, children⟩ : PathTree) := by
          simp only [mk.sizeOf_spec]
          omega
        exact induction below child
termination_by branch => sizeOf branch
decreasing_by exact Nat.lt_trans smaller deeper

mutual

/-- All leaves of a branch have the property, and siblings below it have distinct segments. -/
def Grown (property : SchemaNode → Prop) : PathTree → Prop
  | ⟨_, leaf, children⟩ =>
      (∀ node ∈ leaf, property node) ∧ (children.map (·.key)).Nodup ∧ EachGrown property children

def EachGrown (property : SchemaNode → Prop) : List PathTree → Prop
  | [] => True
  | branch :: rest => Grown property branch ∧ EachGrown property rest

end

/-- Siblings have distinct segments, and each of them is grown. -/
def AllGrown (property : SchemaNode → Prop) (branches : List PathTree) : Prop :=
  (branches.map (·.key)).Nodup ∧ ∀ branch ∈ branches, Grown property branch

variable {property : SchemaNode → Prop}

theorem eachGrown_iff (branches : List PathTree) :
    EachGrown property branches ↔ ∀ branch ∈ branches, Grown property branch := by
  induction branches with
  | nil => simp [EachGrown]
  | cons branch rest inductionHypothesis =>
      rw [EachGrown, inductionHypothesis, List.forall_mem_cons]

theorem grown_iff (branch : PathTree) :
    Grown property branch ↔
      (∀ node ∈ branch.leaf, property node) ∧ AllGrown property branch.children := by
  cases branch
  rw [Grown, eachGrown_iff]
  rfl

theorem allGrown_nil : AllGrown property [] :=
  ⟨List.nodup_nil, nofun⟩

theorem grown_new (key : String) : Grown property { key := key } := by
  rw [grown_iff]
  exact ⟨nofun, allGrown_nil⟩

section

variable {segment : String} {change : PathTree → PathTree}

theorem keys_changeAt (sameKey : ∀ branch, (change branch).key = branch.key)
    (branches : List PathTree) :
    (changeAt segment change branches).map (·.key) =
      if segment ∈ branches.map (·.key) then branches.map (·.key)
      else branches.map (·.key) ++ [segment] := by
  induction branches with
  | nil => simp [changeAt, sameKey]
  | cons branch rest inductionHypothesis =>
      by_cases here : branch.key = segment
      · simp [changeAt, here, sameKey]
      · have elsewhere : segment ≠ branch.key := fun equal => here equal.symm
        rw [changeAt, if_neg here, List.map_cons, inductionHypothesis]
        split <;> simp_all

theorem forall_changeAt {holds : PathTree → Prop} (new : holds { key := segment })
    (changed : ∀ branch, holds branch → holds (change branch)) {branches : List PathTree}
    (all : ∀ branch ∈ branches, holds branch) :
    ∀ branch ∈ changeAt segment change branches, holds branch := by
  induction branches with
  | nil =>
      rw [changeAt, List.forall_mem_cons]
      exact ⟨changed _ new, nofun⟩
  | cons branch rest inductionHypothesis =>
      rw [List.forall_mem_cons] at all
      rw [changeAt]
      split
      · rw [List.forall_mem_cons]
        exact ⟨changed branch all.1, all.2⟩
      · rw [List.forall_mem_cons]
        exact ⟨all.1, inductionHypothesis all.2⟩

/-- A change at a segment keeps branches grown if it keeps the branch there so. -/
theorem allGrown_changeAt (sameKey : ∀ branch, (change branch).key = branch.key)
    (changed : ∀ branch, Grown property branch → Grown property (change branch))
    {branches : List PathTree} (grown : AllGrown property branches) :
    AllGrown property (changeAt segment change branches) := by
  constructor
  · rw [keys_changeAt sameKey]
    split
    · exact grown.1
    · rename_i new
      rw [List.nodup_append]
      refine ⟨grown.1, List.nodup_cons.mpr ⟨List.not_mem_nil, List.nodup_nil⟩, ?_⟩
      intro key member other isSegment same
      exact new (List.mem_singleton.mp isSegment ▸ same ▸ member)
  · exact forall_changeAt (grown_new segment) changed grown.2

end

variable {leaf : SchemaNode} (has : property leaf)
include has

theorem allGrown_plant (segments : List String) {branches : List PathTree}
    (grown : AllGrown property branches) : AllGrown property (plant leaf segments branches) := by
  induction segments generalizing branches with
  | nil => exact grown
  | cons segment rest inductionHypothesis =>
      cases rest with
      | nil =>
          apply allGrown_changeAt _ _ grown
          · exact fun _ => rfl
          · intro branch branchGrown
            rw [grown_iff] at branchGrown ⊢
            exact ⟨fun node same => Option.some.inj same ▸ has, branchGrown.2⟩
      | cons next rest =>
          apply allGrown_changeAt _ _ grown
          · exact fun _ => rfl
          · intro branch branchGrown
            rw [grown_iff] at branchGrown ⊢
            exact ⟨branchGrown.1, inductionHypothesis branchGrown.2⟩

theorem allGrown_insert (path : String) {branches : List PathTree}
    (grown : AllGrown property branches) : AllGrown property (insert branches path leaf) := by
  rw [insert]
  split
  · exact grown
  · exact allGrown_plant has (segments path) grown

omit has

/-- Leaves with the property grow to branches of such leaves. -/
theorem allGrown_foldl_insert {entries : List (String × SchemaNode)}
    (each : ∀ entry ∈ entries, property entry.2) {branches : List PathTree}
    (grown : AllGrown property branches) :
    AllGrown property
      (entries.foldl (fun branches (path, leaf) => insert branches path leaf) branches) := by
  induction entries generalizing branches with
  | nil => exact grown
  | cons entry rest inductionHypothesis =>
      rw [List.forall_mem_cons] at each
      exact inductionHypothesis each.2 (allGrown_insert each.1 entry.1 grown)

end PathTree

end Formwork
