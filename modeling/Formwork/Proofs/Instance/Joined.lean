/-
This file shows how a path goes on behind the path of a parent: with the segments of a key, which is
a single one if the key has no dot.
-/

import Formwork.Instance.Path

namespace Formwork

namespace Path

theorem stepsFrom_append (walked : List Char) {first : List (List Char)} (nonempty : first ≠ [])
    (second : List (List Char)) :
    stepsFrom walked (first ++ second) =
      stepsFrom walked first ++ stepsFrom (walked ++ ['.'].intercalate first ++ ['.']) second := by
  induction first generalizing walked with
  | nil => contradiction
  | cons segment rest inductionHypothesis =>
      rw [List.cons_append, stepsFrom, stepsFrom, List.cons_append]
      cases rest with
      | nil => rw [List.nil_append, List.intercalate_singleton]; rfl
      | cons next rest =>
          rw [inductionHypothesis _ (List.cons_ne_nil next rest), List.intercalate_cons_cons]
          simp

/-- Behind a path that is not empty come the steps of all segments of the key. -/
theorem steps_behind {parent : String} (nonempty : parent ≠ "") (key : String) :
    steps (parent ++ "." ++ key) =
      steps parent ++ stepsFrom (parent.toList ++ ['.']) (segments key) := by
  have cut : segments (parent ++ "." ++ key) = segments parent ++ segments key := by
    simp [segments, Text.pieces_separated]
  have whole : ['.'].intercalate (segments parent) = parent.toList :=
    Text.intercalate_pieces '.' parent.toList
  rw [steps, steps, cut, ← whole]
  rcases parentSegments : segments parent with _ | ⟨_ | ⟨c, cs⟩, others⟩
  · exact absurd parentSegments (Text.pieces_ne_nil '.' parent.toList)
  · cases others with
    | nil =>
        rw [parentSegments, List.intercalate_singleton] at whole
        exact absurd (String.toList_eq_nil_iff.mp whole.symm) nonempty
    | cons next rest =>
        exact stepsFrom_append ['.'] (List.cons_ne_nil next rest) (segments key)
  · exact stepsFrom_append [] (List.cons_ne_nil (c :: cs) others) (segments key)

theorem steps_undotted {key : String} (undotted : '.' ∉ key.toList) : steps key = [⟨key, key⟩] := by
  have single : segments key = [key.toList] := Text.pieces_of_not_mem undotted
  have isStep : stepsFrom [] [key.toList] = [⟨key, key⟩] := by simp [stepsFrom]
  rw [steps, single, ← isStep]
  cases key.toList <;> rfl

/-- A key without dots is one more step behind its parent. -/
theorem steps_join (parent : String) {key : String} (undotted : '.' ∉ key.toList) :
    steps (join parent key) = stepsInto parent ++ [⟨key, join parent key⟩] := by
  rw [join, stepsInto]
  by_cases top : parent.isEmpty
  · rw [if_pos top, if_pos top, steps_undotted undotted, List.nil_append]
  · have single : segments key = [key.toList] := Text.pieces_of_not_mem undotted
    have whole : String.ofList (parent.toList ++ ['.'] ++ key.toList) = parent ++ "." ++ key := by
      rw [← String.toList_inj]
      simp
    rw [if_neg top, if_neg top, steps_behind (by simpa using top), single, stepsFrom, stepsFrom,
      String.ofList_toList, whole]

theorem stepsFrom_ne_nil (walked : List Char) {all : List (List Char)} (nonempty : all ≠ []) :
    stepsFrom walked all ≠ [] := by
  cases all with
  | nil => contradiction
  | cons => exact List.cons_ne_nil _ _

theorem steps_ne_nil (path : String) : steps path ≠ [] := by
  rw [steps]
  split
  · exact stepsFrom_ne_nil ['.'] (List.cons_ne_nil _ _)
  · exact stepsFrom_ne_nil [] (Text.pieces_ne_nil '.' path.toList)

/-- Whatever the key is, the path goes on behind the steps of its parent. -/
theorem exists_steps_join (parent key : String) :
    ∃ between last, steps (join parent key) = stepsInto parent ++ between ++ [last] := by
  obtain ⟨more, nonempty, isBehind⟩ :
      ∃ more, more ≠ [] ∧ steps (join parent key) = stepsInto parent ++ more := by
    rw [join, stepsInto]
    by_cases top : parent.isEmpty
    · rw [if_pos top, if_pos top]
      exact ⟨steps key, steps_ne_nil key, rfl⟩
    · rw [if_neg top, if_neg top, steps_behind (by simpa using top)]
      exact ⟨_, stepsFrom_ne_nil _ (Text.pieces_ne_nil '.' key.toList), rfl⟩
  refine ⟨more.dropLast, more.getLast nonempty, ?_⟩
  rw [List.append_assoc, List.dropLast_concat_getLast, isBehind]

theorem segment_mem_of_mem_stepsFrom {walked : List Char} {all : List (List Char)} {step : Step}
    (member : step ∈ stepsFrom walked all) : step.segment.toList ∈ all := by
  induction all generalizing walked with
  | nil => cases member
  | cons segment rest inductionHypothesis =>
      rcases List.mem_cons.mp member with rfl | later
      · simp
      · exact List.mem_cons_of_mem segment (inductionHypothesis later)

/-- A segment has no dot. -/
theorem undotted_segment {path : String} {step : Step} (member : step ∈ steps path) :
    '.' ∉ step.segment.toList := by
  apply Text.not_mem_of_mem_pieces '.' path.toList
  rw [steps] at member
  split at member
  · rename_i led
    rw [← segments, led]
    exact List.mem_cons_of_mem [] (segment_mem_of_mem_stepsFrom member)
  · exact segment_mem_of_mem_stepsFrom member

/-! The place of an item as a key behind the path of its list. -/

theorem isDigit_of_mem_repr {place : Nat} {c : Char} (member : c ∈ (Nat.repr place).toList) :
    c.isDigit = true := by
  rw [Nat.repr, String.toList_ofList] at member
  exact Nat.isDigit_of_mem_toDigits (by decide) (by decide) member

theorem undotted_repr (place : Nat) : '.' ∉ (Nat.repr place).toList :=
  fun isDot => absurd (isDigit_of_mem_repr isDot) (by decide)

/-- A segment that is a number counts this number. -/
theorem index?_repr (place : Nat) : index? (Nat.repr place) = some place := by
  have unsigned : ∀ digits, (Nat.repr place).toList ≠ '+' :: digits := by
    intro digits signed
    have isDigit := isDigit_of_mem_repr (signed ▸ List.mem_cons_self)
    exact absurd isDigit (by decide)
  have allDigits : Numeral.allDigits (Nat.repr place).toList = true := by
    rw [Numeral.allDigits, Bool.and_eq_true, List.all_eq_true]
    refine ⟨?_, fun c member => isDigit_of_mem_repr member⟩
    rw [Nat.repr, String.toList_ofList]
    simp [Nat.toDigits_ne_nil]
  have value : Numeral.digitsValue (Nat.repr place).toList = place := by
    rw [Nat.repr, String.toList_ofList]
    exact Nat.ofDigitChars_toDigits (by decide) (by decide)
  rw [index?]
  generalize (Nat.repr place).toList = digits at unsigned allDigits value
  split
  · exact absurd rfl (unsigned _)
  · rw [if_pos allDigits, value]

end Path

end Formwork
