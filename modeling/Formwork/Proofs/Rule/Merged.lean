/-
This file shows that rule sets are ordered maps: merging is associative, with the empty rule set as
its unit, and a path that comes more than once stands at its first place with its last declaration.
-/

import Formwork.Proofs.Codec.Rule
import Mathlib.Data.List.Induction
import Mathlib.Data.List.Nodup

namespace Formwork

namespace Entries

variable {Value : Type}

/-! What is found, and in which order. -/

/-- Entries of distinct names are told by the order of their names and by what is found. -/
theorem eq_of_find? {entries other : Entries Value} (distinct : entries.names.Nodup)
    (sameNames : entries.names = other.names)
    (sameFound : ∀ name, entries.find? name = other.find? name) : entries = other := by
  have paired : ∀ {entries : Entries Value}, entries.names.Nodup →
      entries.map (fun entry => (entry.1, some entry.2)) =
        entries.names.map fun name => (name, entries.find? name) := by
    intro entries distinct
    rw [names, List.map_map]
    exact List.map_congr_left fun entry member => by
      rw [Function.comp_apply, find?_of_mem distinct member]
  have injective : Function.Injective fun entry : String × Value => (entry.1, some entry.2) := by
    intro entry other same
    obtain ⟨sameName, sameValue⟩ := Prod.mk.inj same
    exact Prod.ext sameName (Option.some.inj sameValue)
  refine List.map_injective_iff.mpr injective ?_
  calc
    entries.map (fun entry => (entry.1, some entry.2)) =
        entries.names.map fun name => (name, entries.find? name) := paired distinct
    _ = other.names.map fun name => (name, other.find? name) := by simp only [sameNames, sameFound]
    _ = other.map fun entry => (entry.1, some entry.2) := (paired (sameNames ▸ distinct)).symm

theorem find?_eq_none_iff {name : String} {entries : Entries Value} :
    entries.find? name = none ↔ name ∉ entries.names := by
  induction entries with
  | nil => exact iff_of_true rfl List.not_mem_nil
  | cons entry rest inductionHypothesis =>
      obtain ⟨other, value⟩ := entry
      rw [find?, names, List.map_cons, List.mem_cons, not_or]
      split
      · rename_i same
        exact iff_of_false (Option.some_ne_none value) fun both => both.1 same.symm
      · rename_i differs
        rw [inductionHypothesis]
        exact (and_iff_right (Ne.symm differs)).symm

/-- Among distinct names the first entry of a name is its last. -/
theorem find?_reverse {entries : Entries Value} (distinct : entries.names.Nodup) (name : String) :
    find? name entries.reverse = entries.find? name := by
  have distinctReverse : (names entries.reverse).Nodup := by
    rw [names, List.map_reverse, List.nodup_reverse]
    exact distinct
  refine Option.ext fun value => ⟨fun found => ?_, fun found => ?_⟩
  · exact find?_of_mem distinct (List.mem_reverse.mp (mem_of_find? found))
  · exact find?_of_mem distinctReverse (List.mem_reverse.mpr (mem_of_find? found))

theorem find?_map (write : String → Value → Value) (name : String) (entries : Entries Value) :
    find? name (entries.map fun (name, value) => (name, write name value)) =
      (entries.find? name).map (write name) := by
  induction entries with
  | nil => rfl
  | cons entry rest inductionHypothesis =>
      obtain ⟨other, value⟩ := entry
      rw [List.map_cons, find?, find?]
      split
      · rename_i same
        rw [same, Option.map_some]
      · exact inductionHypothesis

theorem find?_filter (kept : String → Prop) [DecidablePred kept] (name : String)
    (entries : Entries Value) :
    find? name (entries.filter fun (name, _) => kept name) =
      if kept name then entries.find? name else none := by
  induction entries with
  | nil => rw [List.filter_nil, find?, ite_self]
  | cons entry rest inductionHypothesis =>
      obtain ⟨other, value⟩ := entry
      by_cases isKept : kept other
      · rw [List.filter_cons_of_pos (by simpa using isKept), find?, find?, inductionHypothesis]
        split
        · rename_i same
          rw [if_pos (same ▸ isKept)]
        · rfl
      · rw [List.filter_cons_of_neg (by simpa using isKept), inductionHypothesis, find?]
        split
        · split
          · exact absurd ‹kept name› (‹other = name› ▸ isKept)
          · rfl
        · rfl

/-! Entries that are put one after the other. -/

theorem merge_concat (entries other : Entries Value) (entry : String × Value) :
    entries.merge (other ++ [entry]) = (entries.merge other).put entry.1 entry.2 :=
  List.foldl_append

/-- The last of the merged values is found. -/
theorem find?_merge (entries other : Entries Value) (name : String) :
    (entries.merge other).find? name = (find? name other.reverse).or (entries.find? name) := by
  induction other using List.reverseRecOn with
  | nil => rfl
  | append_singleton other entry inductionHypothesis =>
      rw [merge_concat, find?_put, inductionHypothesis, List.reverse_append, List.reverse_singleton,
        List.singleton_append, find?]
      split <;> rfl

/-- New names follow in their order. -/
theorem names_merge (entries : Entries Value) {other : Entries Value}
    (distinct : other.names.Nodup) :
    (entries.merge other).names = entries.names ++ other.names.filter (· ∉ entries.names) := by
  induction other using List.reverseRecOn with
  | nil => simp [merge, names]
  | append_singleton other entry inductionHypothesis =>
      have appended : names (other ++ [entry]) = names other ++ [entry.1] := List.map_append
      rw [appended, List.nodup_append] at distinct
      have last : entry.1 ∉ names other :=
        fun member => distinct.2.2 _ member _ List.mem_cons_self rfl
      rw [merge_concat, names_put, inductionHypothesis distinct.1, appended, List.filter_append,
        ← List.append_assoc]
      by_cases old : entry.1 ∈ entries.names <;> simp [old, last]

theorem names_settle (entries : Entries Value) :
    entries.settle.names = entries.names.eraseDups := by
  induction entries using List.reverseRecOn with
  | nil => rfl
  | append_singleton entries entry inductionHypothesis =>
      have appended : names (entries ++ [entry]) = names entries ++ [entry.1] := List.map_append
      rw [settle, merge_concat, ← settle, names_put, appended, List.eraseDups_append,
        ← inductionHypothesis]
      by_cases old : entry.1 ∈ names entries <;>
        simp [List.removeAll, List.eraseDups_cons, mem_names_settle, old]

section

variable {first second third : Entries Value} (distinctFirst : first.names.Nodup)
  (distinctSecond : second.names.Nodup)
include distinctFirst distinctSecond

/-- The first entries with the values of the second, and behind them those of new names. -/
theorem merge_eq :
    first.merge second =
      first.map (fun (name, value) => (name, (second.find? name).getD value)) ++
        second.filter fun (name, _) => name ∉ first.names := by
  refine eq_of_find? (nodup_merge distinctFirst second) ?_ fun name => ?_
  · rw [names_merge first distinctSecond]
    simp [names, List.filter_map, Function.comp_def]
  · rw [find?_merge, find?_reverse distinctSecond, find?_append,
      find?_map fun name value => (find? name second).getD value,
      find?_filter fun name => name ∉ first.names]
    cases found : first.find? name with
    | none =>
        rw [if_pos (find?_eq_none_iff.mp found), Option.or_none]
        rfl
    | some value => cases second.find? name <;> rfl

theorem merge_assoc (distinctThird : third.names.Nodup) :
    (first.merge second).merge third = first.merge (second.merge third) := by
  have distinctMerged := nodup_merge distinctSecond third
  refine eq_of_find? (nodup_merge (nodup_merge distinctFirst second) third) ?_ fun name => ?_
  · rw [names_merge _ distinctThird, names_merge _ distinctSecond, names_merge _ distinctMerged,
      names_merge _ distinctThird, List.filter_append, List.append_assoc, List.filter_filter]
    refine congrArg _ (congrArg _ (List.filter_congr fun name member => ?_))
    by_cases inFirst : name ∈ first.names <;> simp [inFirst]
  · rw [find?_merge, find?_merge, find?_merge, find?_reverse distinctMerged, find?_merge,
      find?_reverse distinctSecond, Option.or_assoc]

end

theorem merge_self {entries : Entries Value} (distinct : entries.names.Nodup) :
    entries.merge entries = entries := by
  refine eq_of_find? (nodup_merge distinct entries) ?_ fun name => ?_
  · rw [names_merge _ distinct, List.filter_eq_nil_iff.mpr (by simp), List.append_nil]
  · rw [find?_merge, find?_reverse distinct, Option.or_self]

end Entries

namespace RuleSet

/-- The lists of entries that inserting, merging and collecting lead to. -/
inductive Built : Entries Declaration → Prop
  | empty : Built []
  | insert {entries : Entries Declaration} (built : Built entries) (path : String)
      (declaration : Declaration) : Built (entries.put path declaration)
  | merge {entries other : Entries Declaration} (built : Built entries) (otherBuilt : Built other) :
      Built (entries.merge other)
  | collect (entries : List (String × Declaration)) : Built (Entries.settle entries)

/-- No path comes twice, and that is all that the lists have in common. -/
theorem built_iff {entries : Entries Declaration} : Built entries ↔ entries.names.Nodup := by
  constructor
  · intro built
    induction built with
    | empty => exact List.nodup_nil
    | insert _ path declaration distinct => exact Entries.nodup_put path declaration distinct
    | merge _ _ distinct _ => exact Entries.nodup_merge distinct _
    | collect entries => exact Entries.nodup_settle entries
  · intro distinct
    rw [← Entries.settle_of_nodup distinct]
    exact .collect entries

/-- Rule sets are ordered maps, and a monoid of them under merging. -/
theorem merge_laws :
    (∀ entries, Built entries ↔ entries.names.Nodup) ∧
    (∀ first second : RuleSet,
      (first.merge second).entries =
        first.entries.map (fun (path, declaration) =>
            (path, (second.get? path).getD declaration)) ++
          second.entries.filter fun (path, _) => path ∉ first.entries.names) ∧
    (∀ first second third : RuleSet,
      (first.merge second).merge third = first.merge (second.merge third)) ∧
    (∀ rules : RuleSet,
      empty.merge rules = rules ∧ rules.merge empty = rules ∧ rules.merge rules = rules) ∧
    ofList [] = empty ∧
    ∀ entries : List (String × Declaration),
      (∀ path declaration,
        ofList (entries ++ [(path, declaration)]) = (ofList entries).insert path declaration) ∧
      (ofList entries).entries.names = (Entries.names entries).eraseDups ∧
      ∀ path, (ofList entries).get? path = Entries.find? path entries.reverse := by
  refine ⟨fun entries => built_iff, fun first second => ?_, fun first second third => ?_,
    fun rules => ⟨?_, rfl, ?_⟩, rfl,
    fun entries => ⟨fun path declaration => ?_, ?_, fun path => ?_⟩⟩
  · exact Entries.merge_eq first.distinct second.distinct
  · exact eq_of_entries (Entries.merge_assoc first.distinct second.distinct third.distinct)
  · exact eq_of_entries (Entries.settle_of_nodup rules.distinct)
  · exact eq_of_entries (Entries.merge_self rules.distinct)
  · exact List.foldl_append
  · rw [entries_ofList, Entries.names_settle]
  · rw [get?, entries_ofList, Entries.settle, Entries.find?_merge]
    exact Option.or_none

example :
    ((ofList [("a", .text "string"), ("b", .text "string")]).merge
      (ofList [("a", .text "integer"), ("c", .text "email")])).entries =
        [("a", .text "integer"), ("b", .text "string"), ("c", .text "email")] :=
  rfl

end RuleSet

end Formwork
