/-
This file shows which entries the directives of a text make: those of each section and the responses
of each status, in the order in which the text declares them.
-/

import Formwork.Directive
import Mathlib.Data.List.Induction
import Mathlib.Data.List.Nodup

namespace Formwork

namespace SortedEntries

variable {Value : Type}

theorem find?_eq_some_iff {sorted : SortedEntries Value} {name : String} {value : Value} :
    sorted.find? name = some value ↔ (name, value) ∈ sorted.entries :=
  ⟨Entries.mem_of_find?, Entries.find?_of_mem (sorted.sorted.imp Std.ne_of_lt)⟩

/-- Sorted entries are the same if the same is found in them. -/
theorem eq_of_find? {first second : SortedEntries Value}
    (same : ∀ name, first.find? name = second.find? name) : first = second := by
  have distinct (sorted : SortedEntries Value) : sorted.entries.Nodup :=
    List.Nodup.of_map Prod.fst (sorted.sorted.imp Std.ne_of_lt)
  have permuted : first.entries.Perm second.entries := by
    rw [List.perm_ext_iff_of_nodup (distinct first) (distinct second)]
    rintro ⟨name, value⟩
    rw [← find?_eq_some_iff, ← find?_eq_some_iff, same]
  have inOrder (sorted : SortedEntries Value) :
      sorted.entries.Pairwise fun entry other => entry.1 < other.1 :=
    List.pairwise_map.mp sorted.sorted
  have apart : ∀ entry other : String × Value, entry ∈ first.entries → other ∈ second.entries →
      entry.1 < other.1 → other.1 < entry.1 → entry = other :=
    fun _ _ _ _ before after => absurd after (Std.not_gt_of_lt before)
  have equal := permuted.eq_of_pairwise apart (inOrder first) (inOrder second)
  cases first
  cases second
  cases equal
  rfl

end SortedEntries

namespace Directive

/-! What a directive adds to a section. -/

def inBody? : Directive → Option ManualParam
  | body parameter => some parameter
  | _ => none

def inQuery? : Directive → Option ManualParam
  | query parameter => some parameter
  | _ => none

def inHeaders? : Directive → Option ManualHeader
  | header declared => some declared
  | _ => none

def inGroup? (status : String) : Directive → Option ManualParam
  | response other parameter => if other = status then some parameter else none
  | _ => none

end Directive

namespace Directives

/-- The responses of a status. -/
def group (directives : Directives) (status : String) : List ManualParam :=
  (directives.responses.find? status).getD []

/-- These are the directives in an order that keeps that of each section and of each status. -/
structure Interleaved (directives : Directives) (inOrder : List Directive) : Prop where
  body : inOrder.filterMap Directive.inBody? = directives.body
  query : inOrder.filterMap Directive.inQuery? = directives.query
  headers : inOrder.filterMap Directive.inHeaders? = directives.headers
  responses : ∀ status, inOrder.filterMap (Directive.inGroup? status) = directives.group status

/-- Each status has a response. -/
def IsGrouped (directives : Directives) : Prop :=
  ∀ status, directives.responses.find? status ≠ some []

theorem group_add (directives : Directives) (directive : Directive) (status : String) :
    (directives.add directive).group status =
      directives.group status ++ (directive.inGroup? status).toList := by
  cases directive with
  | response other parameter =>
      rw [group, add, SortedEntries.find?_put, Directive.inGroup?]
      split
      · rename_i same
        rw [same]
        rfl
      · simp [group]
  | body _ => simp [group, add, Directive.inGroup?]
  | query _ => simp [group, add, Directive.inGroup?]
  | header _ => simp [group, add, Directive.inGroup?]

theorem Interleaved.add {directives : Directives} {inOrder : List Directive}
    (interleaved : directives.Interleaved inOrder) (directive : Directive) :
    (directives.add directive).Interleaved (inOrder ++ [directive]) where
  body := by
    rw [List.filterMap_append, interleaved.body]
    cases directive <;> simp [Directives.add, Directive.inBody?]
  query := by
    rw [List.filterMap_append, interleaved.query]
    cases directive <;> simp [Directives.add, Directive.inQuery?]
  headers := by
    rw [List.filterMap_append, interleaved.headers]
    cases directive <;> simp [Directives.add, Directive.inHeaders?]
  responses status := by
    rw [List.filterMap_append, interleaved.responses, group_add]
    cases added : directive.inGroup? status <;> simp [added]

theorem interleaved_foldl_add (inOrder : List Directive) :
    (inOrder.foldl Directives.add {}).Interleaved inOrder := by
  induction inOrder using List.reverseRecOn with
  | nil => exact ⟨rfl, rfl, rfl, fun _ => rfl⟩
  | append_singleton earlier directive inductionHypothesis =>
      rw [List.foldl_append]
      exact inductionHypothesis.add directive

theorem IsGrouped.add {directives : Directives} (grouped : directives.IsGrouped)
    (directive : Directive) : (directives.add directive).IsGrouped := by
  intro status
  cases directive with
  | response other parameter =>
      rw [Directives.add, SortedEntries.find?_put]
      split
      · simp
      · exact grouped status
  | body _ => exact grouped status
  | query _ => exact grouped status
  | header _ => exact grouped status

theorem isGrouped_foldl_add (inOrder : List Directive) :
    (inOrder.foldl Directives.add {}).IsGrouped := by
  induction inOrder using List.reverseRecOn with
  | nil => exact fun _ => (Option.some_ne_none []).symm
  | append_singleton earlier directive inductionHypothesis =>
      rw [List.foldl_append]
      exact inductionHypothesis.add directive

/-- Directives in such an order make one result only. -/
theorem Interleaved.unique {first second : Directives} {inOrder : List Directive}
    (isFirst : first.Interleaved inOrder) (isSecond : second.Interleaved inOrder)
    (firstGrouped : first.IsGrouped) (secondGrouped : second.IsGrouped) : first = second := by
  have responses : first.responses = second.responses := by
    refine SortedEntries.eq_of_find? fun status => ?_
    have same : first.group status = second.group status :=
      (isFirst.responses status).symm.trans (isSecond.responses status)
    -- A status that is missing and one without responses have the same group: only the latter is
    -- excluded.
    have inFirst := firstGrouped status
    have inSecond := secondGrouped status
    rw [group, group] at same
    cases found : first.responses.find? status <;>
      cases other : second.responses.find? status <;> simp_all
  cases first
  cases second
  simp only [mk.injEq]
  exact ⟨isFirst.body.symm.trans isSecond.body, isFirst.query.symm.trans isSecond.query,
    isFirst.headers.symm.trans isSecond.headers, responses⟩

/-- In whatever order directives are added, they are the result if the order keeps that of each
section and of each status. -/
theorem Interleaved.foldl_add {directives : Directives} {inOrder : List Directive}
    (interleaved : directives.Interleaved inOrder) (grouped : directives.IsGrouped) :
    inOrder.foldl Directives.add {} = directives :=
  (interleaved_foldl_add inOrder).unique interleaved (isGrouped_foldl_add inOrder) grouped

end Directives

end Formwork
