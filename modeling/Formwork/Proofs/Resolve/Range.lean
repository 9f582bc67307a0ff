/-
This file shows that the rules on both bounds of a field are short for a rule on each: a size is a
least and a greatest value that are the same, and a range is one of either. This is so for whatever
stands in the place of the numbers.
-/

import Formwork.Proofs.Number.LowerCase
import Formwork.Proofs.Resolve.Parameter
import Formwork.Resolve.Clause

namespace Formwork

/-- A number is read from the end of a token as it is from what was written there. -/
theorem Number.read?_parameter (before : List Char) (parameter : String) :
    read? (Text.lowercaseAfter before (Text.trimEnd parameter.toList)) =
      read? parameter.toList := by
  rw [← Text.lowercaseBetween_nil, read?_lowercaseBetween, read?, read?, Text.trim_trimEnd]

namespace Clause

theorem ofToken?_parameter {name : String} (plain : PlainName name) (declaration : Declaration)
    (parameter : String) :
    ∃ before, ofToken? declaration (name ++ ":" ++ parameter) =
      classify? declaration
        (name.toList ++ ':' :: Text.lowercaseAfter before (Text.trimEnd parameter.toList))
        (Text.trim (name ++ ":" ++ parameter).toList) := by
  obtain ⟨before, written⟩ := lowercase_parameter name parameter
  rw [plain.writtenName_eq_self] at written
  exact ⟨before, by rw [ofToken?, written]⟩

/-- The rules whose parameter is one number, and their clauses. -/
def numberRules : List (String × (Option Number → Clause)) :=
  [("min", min), ("max", max), ("size", size)]

theorem ofToken?_number (rule : String × (Option Number → Clause)) (member : rule ∈ numberRules)
    (declaration : Declaration) (parameter : String) :
    ofToken? declaration (rule.1 ++ ":" ++ parameter) =
      some (rule.2 (Number.read? parameter.toList)) := by
  have plain : ∀ name ∈ numberRules.map Prod.fst, PlainName name := by decide
  obtain ⟨before, told⟩ :=
    ofToken?_parameter (plain _ (List.mem_map_of_mem member)) declaration parameter
  rw [told, ← Number.read?_parameter before]
  simp only [numberRules, List.mem_cons, List.not_mem_nil, or_false] at member
  obtain rfl | rfl | rfl := member <;> rfl

/-- The comma of a range stays where it is in lower case, and no other one appears. -/
theorem between?_lowercaseAfter {low high : String} (freeLow : ',' ∉ low.toList)
    (freeHigh : ',' ∉ high.toList) (before : List Char) :
    between? (Text.lowercaseAfter before (Text.trimEnd (low ++ "," ++ high).toList)) =
      some (between (Number.read? low.toList) (Number.read? high.toList)) := by
  have separated : (low ++ "," ++ high).toList = low.toList ++ ',' :: high.toList := by
    rw [String.toList_append, String.toList_append, List.append_assoc]
    rfl
  have isComma : ∀ before after cs : List Char, Text.lowercaseAfter before (cs ++ ',' :: after) =
      Text.lowercaseBetween before (',' :: after) cs ++
        ',' :: Text.lowercaseAfter (',' :: (cs.reverse ++ before)) after :=
    fun before after cs => Text.lowercaseAfter_append before cs (',' :: after)
  have freeWritten : ∀ cs : List Char, ',' ∉ cs → ∀ before after,
      ',' ∉ Text.lowercaseBetween before after cs := fun _ free =>
    Text.not_mem_lowercaseBetween (by decide) (by decide +kernel) free
  have freeEnd : ',' ∉ Text.trimEnd high.toList :=
    fun member => freeHigh ((Text.trimEnd_begins _).mem member)
  rw [separated, Text.trimEnd_separated (by decide), isComma, between?, Text.pieces_separated,
    Text.pieces_of_not_mem (freeWritten low.toList freeLow _ _),
    Text.pieces_of_not_mem (Text.lowercaseBetween_nil _ _ ▸ freeWritten _ freeEnd _ [])]
  dsimp only [List.singleton_append]
  rw [Number.read?_lowercaseBetween, Number.read?_parameter]

theorem ofToken?_between {low high : String} (freeLow : ',' ∉ low.toList)
    (freeHigh : ',' ∉ high.toList) (declaration : Declaration) :
    ofToken? declaration ("between:" ++ low ++ "," ++ high) =
      some (between (Number.read? low.toList) (Number.read? high.toList)) := by
  have plain : PlainName "between" := by decide
  obtain ⟨before, told⟩ := ofToken?_parameter plain declaration (low ++ "," ++ high)
  have named : "between:" ++ low ++ "," ++ high = "between" ++ ":" ++ (low ++ "," ++ high) := by
    rw [show "between" ++ ":" = "between:" by decide, String.append_assoc, String.append_assoc,
      String.append_assoc]
  rw [named, told, ← between?_lowercaseAfter freeLow freeHigh before]
  rfl

end Clause

namespace Constraints

/-- Tokens may stand for others that change all constraints in the same way. -/
theorem ofTokens_replace {declaration : Declaration} {first second : List String}
    (same : ∀ constraints : Constraints,
      (first.filterMap (Clause.ofToken? declaration)).foldl add constraints =
        (second.filterMap (Clause.ofToken? declaration)).foldl add constraints)
    (before after : List String) :
    ofTokens declaration (before ++ first ++ after) =
      ofTokens declaration (before ++ second ++ after) := by
  simp only [ofTokens, List.filterMap_append, List.foldl_append, same]

/-- A range and a size are short for a least and a greatest value, wherever they stand. -/
theorem ofTokens_bounds (declaration : Declaration) (before after : List String) :
    (∀ low high : String, ',' ∉ low.toList → ',' ∉ high.toList →
      ofTokens declaration (before ++ ["min:" ++ low, "max:" ++ high] ++ after) =
        ofTokens declaration (before ++ ["between:" ++ low ++ "," ++ high] ++ after)) ∧
    ∀ bound : String,
      ofTokens declaration (before ++ ["size:" ++ bound] ++ after) =
        ofTokens declaration (before ++ ["min:" ++ bound, "max:" ++ bound] ++ after) := by
  have isMin : ∀ bound : String, Clause.ofToken? declaration ("min:" ++ bound) =
      some (.min (Number.read? bound.toList)) :=
    Clause.ofToken?_number ("min", .min) (by simp [Clause.numberRules]) declaration
  have isMax : ∀ bound : String, Clause.ofToken? declaration ("max:" ++ bound) =
      some (.max (Number.read? bound.toList)) :=
    Clause.ofToken?_number ("max", .max) (by simp [Clause.numberRules]) declaration
  have isSize : ∀ bound : String, Clause.ofToken? declaration ("size:" ++ bound) =
      some (.size (Number.read? bound.toList)) :=
    Clause.ofToken?_number ("size", .size) (by simp [Clause.numberRules]) declaration
  refine ⟨fun low high freeLow freeHigh => ?_, fun bound => ?_⟩
  · refine ofTokens_replace (fun constraints => ?_) before after
    rw [List.filterMap_cons_some (isMin low), List.filterMap_cons_some (isMax high),
      List.filterMap_cons_some (Clause.ofToken?_between freeLow freeHigh declaration)]
    rfl
  · refine ofTokens_replace (fun constraints => ?_) before after
    rw [List.filterMap_cons_some (isSize bound), List.filterMap_cons_some (isMin bound),
      List.filterMap_cons_some (isMax bound)]
    rfl

/-- Neither white space nor letter case makes a difference, nor does a word that is no number. -/
theorem ofTokens_bounds_unread :
    ',' ∉ " 1E1 ".toList ∧ ',' ∉ "Ten".toList ∧
      ofTokens .absent (["max:3"] ++ ["min: 1E1 ", "max:Ten"] ++ ["required"]) =
        ofTokens .absent (["max:3"] ++ ["between: 1E1 ,Ten"] ++ ["required"]) := by
  have freeLow : ',' ∉ " 1E1 ".toList := by decide
  have freeHigh : ',' ∉ "Ten".toList := by decide
  exact ⟨freeLow, freeHigh,
    (ofTokens_bounds .absent ["max:3"] ["required"]).1 " 1E1 " "Ten" freeLow freeHigh⟩

end Constraints

end Formwork
