/-
This file defines named values in the order of their names.
-/

import Formwork.Entries

namespace Formwork

/-- Named values in the order of their names, each name once. -/
structure SortedEntries (Value : Type) where
  entries : Entries Value
  sorted : entries.names.Pairwise (· < ·)
deriving DecidableEq

namespace SortedEntries

variable {Value : Type}

/-- The value in its place, or in the place of an earlier one of its name. -/
def place (name : String) (value : Value) : Entries Value → Entries Value
  | [] => [(name, value)]
  | (other, old) :: rest =>
      if other = name then (name, value) :: rest
      else if name < other then (name, value) :: (other, old) :: rest
      else (other, old) :: place name value rest

theorem mem_names_place (name : String) (value : Value) (entries : Entries Value)
    (other : String) :
    other ∈ (place name value entries).names ↔ other = name ∨ other ∈ entries.names := by
  simp only [Entries.names]
  induction entries with
  | nil => simp [place]
  | cons entry rest inductionHypothesis =>
      obtain ⟨first, old⟩ := entry
      by_cases same : first = name
      · simp [place, same]
      · by_cases before : name < first
        · simp [place, same, before]
        · simp only [place, same, before, if_false, List.map_cons, List.mem_cons,
            inductionHypothesis]
          rw [or_left_comm]

theorem sorted_place (name : String) (value : Value) {entries : Entries Value}
    (sorted : entries.names.Pairwise (· < ·)) :
    (place name value entries).names.Pairwise (· < ·) := by
  induction entries with
  | nil => exact List.pairwise_singleton _ _
  | cons entry rest inductionHypothesis =>
      obtain ⟨first, old⟩ := entry
      have ⟨firstLeast, restSorted⟩ := List.pairwise_cons.mp sorted
      by_cases same : first = name
      · simpa [place, Entries.names, ← same] using sorted
      · by_cases before : name < first
        · simp only [place, same, before, if_true, if_false]
          refine List.pairwise_cons.mpr ⟨fun other member => ?_, sorted⟩
          rcases List.mem_cons.mp member with isFirst | later
          · exact isFirst ▸ before
          · exact String.lt_trans before (firstLeast other later)
        · simp only [place, same, before, if_false]
          refine List.pairwise_cons.mpr
            ⟨fun other member => ?_, inductionHypothesis restSorted⟩
          rcases (mem_names_place name value rest other).mp member with isName | later
          · exact isName ▸ Std.lt_of_le_of_ne (String.not_lt.mp before) same
          · exact firstLeast other later

theorem find?_place (name other : String) (value : Value) (entries : Entries Value) :
    (place name value entries).find? other =
      if name = other then some value else entries.find? other := by
  induction entries with
  | nil => rfl
  | cons entry rest inductionHypothesis =>
      obtain ⟨first, old⟩ := entry
      by_cases same : first = name
      · subst same
        by_cases here : first = other <;> simp [place, Entries.find?, here]
      · by_cases before : name < first
        · rw [place, if_neg same, if_pos before, Entries.find?]
        · rw [place, if_neg same, if_neg before]
          by_cases here : first = other
          · have differ : ¬name = other := fun equal => same (here.trans equal.symm)
            simp [Entries.find?, here, differ]
          · simp [Entries.find?, here, inductionHypothesis]

def empty : SortedEntries Value :=
  ⟨[], List.Pairwise.nil⟩

instance : Inhabited (SortedEntries Value) := ⟨empty⟩

def put (name : String) (value : Value) (sorted : SortedEntries Value) : SortedEntries Value :=
  ⟨place name value sorted.entries, sorted_place name value sorted.sorted⟩

def find? (name : String) (sorted : SortedEntries Value) : Option Value :=
  sorted.entries.find? name

/-- A put value is found, and all other names are left alone. -/
theorem find?_put (name other : String) (value : Value) (sorted : SortedEntries Value) :
    (sorted.put name value).find? other =
      if name = other then some value else sorted.find? other :=
  find?_place name other value sorted.entries

/-- Of two entries of one name the later one stays. -/
def ofList (entries : List (String × Value)) : SortedEntries Value :=
  entries.foldl (fun sorted (name, value) => sorted.put name value) empty

end SortedEntries

end Formwork
