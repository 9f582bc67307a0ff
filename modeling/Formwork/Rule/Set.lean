/-
This file defines rule sets: declarations by the dotted path of their field.
-/

import Formwork.Rule.Declaration

namespace Formwork

/-- Fields come in the order in which their paths were first added. -/
structure RuleSet where
  entries : Entries Declaration
  distinct : entries.names.Nodup

namespace RuleSet

/-- Rule sets of the same entries are the same. -/
theorem eq_of_entries {rules other : RuleSet} (same : rules.entries = other.entries) :
    rules = other := by
  cases rules
  cases other
  cases same
  rfl

def empty : RuleSet :=
  ⟨[], List.nodup_nil⟩

instance : Inhabited RuleSet := ⟨empty⟩

/-- A declaration takes the place of an earlier one for its path. -/
def insert (rules : RuleSet) (path : String) (declaration : Declaration) : RuleSet :=
  ⟨rules.entries.put path declaration, Entries.nodup_put path declaration rules.distinct⟩

def get? (rules : RuleSet) (path : String) : Option Declaration :=
  rules.entries.find? path

theorem get?_insert (rules : RuleSet) (path other : String) (declaration : Declaration) :
    (rules.insert path declaration).get? other =
      if path = other then some declaration else rules.get? other :=
  Entries.find?_put path other declaration rules.entries

def size (rules : RuleSet) : Nat :=
  rules.entries.length

def isEmpty (rules : RuleSet) : Bool :=
  rules.entries.isEmpty

/-- For a path in both sets the second declaration holds. -/
def merge (rules other : RuleSet) : RuleSet :=
  ⟨rules.entries.merge other.entries, Entries.nodup_merge rules.distinct other.entries⟩

def ofList (entries : List (String × Declaration)) : RuleSet :=
  entries.foldl (fun rules (path, declaration) => rules.insert path declaration) empty

end RuleSet

end Formwork
