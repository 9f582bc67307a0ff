/-
This file defines lists of named values that keep the order in which their names first came.
-/

namespace Formwork

abbrev Entries (Value : Type) := List (String × Value)

namespace Entries

variable {Value : Type}

def names (entries : Entries Value) : List String :=
  entries.map Prod.fst

def find? (name : String) : Entries Value → Option Value
  | [] => none
  | (other, value) :: rest => if other = name then some value else find? name rest

/-- The value takes the place of an earlier one of its name; a new name comes last. -/
def put (name : String) (value : Value) : Entries Value → Entries Value
  | [] => [(name, value)]
  | (other, old) :: rest =>
      if other = name then (other, value) :: rest else (other, old) :: put name value rest

/-- All entries of the second list put into the first. -/
def merge (entries other : Entries Value) : Entries Value :=
  other.foldl (fun merged (name, value) => merged.put name value) entries

/-- Each name once, where it first came and with its last value. -/
def settle (entries : Entries Value) : Entries Value :=
  merge [] entries

/-- A put value is found, and all other names are left alone. -/
theorem find?_put (name other : String) (value : Value) (entries : Entries Value) :
    (entries.put name value).find? other =
      if name = other then some value else entries.find? other := by
  induction entries with
  | nil => rfl
  | cons entry rest inductionHypothesis =>
      obtain ⟨first, old⟩ := entry
      by_cases same : first = name
      · subst same
        by_cases here : first = other <;> simp [put, find?, here]
      · rw [put, if_neg same]
        by_cases here : first = other
        · have differ : ¬name = other := fun equal => same (here.trans equal.symm)
          simp [find?, here, differ]
        · simp [find?, here, inductionHypothesis]

/-- The value of an entry is found by its name if no other entry has the name. -/
theorem find?_of_mem {name : String} {value : Value} {entries : Entries Value}
    (distinct : entries.names.Nodup) (member : (name, value) ∈ entries) :
    entries.find? name = some value := by
  induction entries with
  | nil => cases member
  | cons entry rest inductionHypothesis =>
      obtain ⟨other, old⟩ := entry
      rw [names, List.map_cons, List.nodup_cons] at distinct
      rcases List.mem_cons.mp member with isFirst | later
      · cases isFirst
        simp [find?]
      · have differ : other ≠ name :=
          fun same => distinct.1 (List.mem_map.mpr ⟨(name, value), later, same.symm⟩)
        rw [find?, if_neg differ]
        exact inductionHypothesis distinct.2 later

/-- What is found is the value of an entry. -/
theorem mem_of_find? {name : String} {value : Value} {entries : Entries Value}
    (found : entries.find? name = some value) : (name, value) ∈ entries := by
  induction entries with
  | nil => cases found
  | cons entry rest inductionHypothesis =>
      obtain ⟨other, old⟩ := entry
      rw [find?] at found
      split at found
      · rename_i same
        rw [same, Option.some.inj found]
        exact List.mem_cons_self
      · exact List.mem_cons_of_mem _ (inductionHypothesis found)

theorem names_put (name : String) (value : Value) (entries : Entries Value) :
    (entries.put name value).names =
      if name ∈ entries.names then entries.names else entries.names ++ [name] := by
  induction entries with
  | nil => simp [put, names]
  | cons entry rest inductionHypothesis =>
      obtain ⟨other, old⟩ := entry
      by_cases same : other = name
      · simp [put, names, same]
      · have differ : ¬name = other := fun equal => same equal.symm
        simp only [names] at inductionHypothesis
        simp only [put, same, if_false, names, List.map_cons, inductionHypothesis,
          List.mem_cons, differ, false_or]
        by_cases present : name ∈ rest.map Prod.fst <;> simp [present]

theorem nodup_put (name : String) (value : Value) {entries : Entries Value}
    (distinct : entries.names.Nodup) : (entries.put name value).names.Nodup := by
  rw [names_put]
  split
  · exact distinct
  · rename_i absent
    rw [List.nodup_append]
    refine ⟨distinct, by simp, ?_⟩
    intro first firstMember second secondMember equal
    rw [List.mem_singleton] at secondMember
    subst secondMember equal
    exact absent firstMember

theorem nodup_merge {entries : Entries Value} (distinct : entries.names.Nodup)
    (other : Entries Value) : (entries.merge other).names.Nodup := by
  induction other generalizing entries with
  | nil => exact distinct
  | cons entry rest inductionHypothesis =>
      exact inductionHypothesis (nodup_put entry.1 entry.2 distinct)

theorem nodup_settle (entries : Entries Value) : entries.settle.names.Nodup :=
  nodup_merge (by simp [names]) entries

end Entries

end Formwork
