/-
This file shows where the bounds of a field come from: each is the number that the last rule on it
has as its parameter.
-/

import Formwork.Proofs.Resolve.Pattern

namespace Formwork

inductive Bound where
  | lower
  | upper
deriving DecidableEq

def Constraints.bound (constraints : Constraints) : Bound → Option Number
  | .lower => constraints.min
  | .upper => constraints.max

namespace Bound

/-- The rule on this bound alone. -/
def rule : Bound → String
  | lower => "min:"
  | upper => "max:"

/-- The part of a range that is this bound. A range has exactly two parts. -/
def ofRange? (bound : Bound) (parameters : List Char) : Option (List Char) :=
  match Text.pieces ',' parameters with
  | [low, high] => some (match bound with | lower => low | upper => high)
  | _ => none

/-- The text that a token gives for the bound. -/
def text? (bound : Bound) (token : String) : Option (List Char) :=
  let lower := Text.lowercase (Text.trim token.toList)
  bound.rule.toList.isPrefixOf? lower <|> "size:".toList.isPrefixOf? lower <|>
    ("between:".toList.isPrefixOf? lower).bind bound.ofRange?

/-- The text that the last of the tokens on the bound gives for it. -/
def lastText? (bound : Bound) (tokens : List String) : Option (List Char) :=
  (tokens.filterMap bound.text?).getLast?

end Bound

namespace Clause

/-- What a clause says about a bound. -/
def bound? (bound : Bound) : Clause → Option (Option Number)
  | min value => if bound = .lower then some value else none
  | max value => if bound = .upper then some value else none
  | size value => some value
  | between low high => some (match bound with | .lower => low | .upper => high)
  | _ => none

theorem bound_add (constraints : Constraints) (clause : Clause) (bound : Bound) :
    (constraints.add clause).bound bound =
      (clause.bound? bound).getD (constraints.bound bound) := by
  cases clause <;> cases bound <;> rfl

/-- A range says about a bound what number its part is. -/
theorem bound?_between? (parameters : List Char) (bound : Bound) :
    (between? parameters).bind (bound? bound) = (bound.ofRange? parameters).map Number.read? := by
  rw [between?, Bound.ofRange?]
  rcases Text.pieces ',' parameters with _ | ⟨low, _ | ⟨high, _ | _⟩⟩ <;> cases bound <;> rfl

/-- No other rule says anything about a bound. -/
theorem bound?_of_other {lower : List Char} (noMin : "min:".toList.isPrefixOf? lower = none)
    (noMax : "max:".toList.isPrefixOf? lower = none)
    (noSize : "size:".toList.isPrefixOf? lower = none)
    (noBetween : "between:".toList.isPrefixOf? lower = none) (declaration : Declaration)
    (token : List Char) (bound : Bound) :
    (classify? declaration lower token).bind (bound? bound) = none := by
  have otherRules : ∀ clause, (parameterRules declaration token).findSome?
      (fun rule => (rule.1.toList.isPrefixOf? lower).map rule.2) = some clause →
        clause.bind (bound? bound) = none := by
    intro clause found
    obtain ⟨rule, member, reads⟩ := List.exists_of_findSome?_eq_some found
    obtain ⟨parameter, begins, rfl⟩ := Option.map_eq_some_iff.mp reads
    simp only [parameterRules, List.mem_cons, List.not_mem_nil, or_false] at member
    rcases member with rfl | rfl | rfl | rfl | rfl | rfl | rfl | rfl
    · cases noMin.symm.trans begins
    · cases noMax.symm.trans begins
    · cases noSize.symm.trans begins
    · cases noBetween.symm.trans begins
    all_goals rfl
  simp only [classify?]
  split
  · rfl
  split
  · rfl
  split
  · rfl
  split
  · rfl
  split
  · rename_i found
    exact otherRules _ found
  · split <;> rfl

/-- A token says about a bound what number its text is. -/
theorem bound?_ofToken? (declaration : Declaration) (token : String) (bound : Bound) :
    (ofToken? declaration token).bind (bound? bound) = (bound.text? token).map Number.read? := by
  rw [ofToken?, Bound.text?]
  generalize Text.trim token.toList = trimmed
  generalize Text.lowercase trimmed = lower
  cases isMin : "min:".toList.isPrefixOf? lower with
  | some parameter =>
      obtain rfl := List.append_eq_of_isPrefixOf?_eq_some isMin
      cases bound <;> rfl
  | none =>
  cases isMax : "max:".toList.isPrefixOf? lower with
  | some parameter =>
      obtain rfl := List.append_eq_of_isPrefixOf?_eq_some isMax
      cases bound <;> rfl
  | none =>
  cases isSize : "size:".toList.isPrefixOf? lower with
  | some parameter =>
      obtain rfl := List.append_eq_of_isPrefixOf?_eq_some isSize
      cases bound <;> rfl
  | none =>
  cases isBetween : "between:".toList.isPrefixOf? lower with
  | some parameter =>
      obtain rfl := List.append_eq_of_isPrefixOf?_eq_some isBetween
      cases bound <;> exact bound?_between? parameter _
  | none =>
      rw [bound?_of_other isMin isMax isSize isBetween]
      cases bound with
      | lower => rw [Bound.rule, isMin]; rfl
      | upper => rw [Bound.rule, isMax]; rfl

end Clause

theorem Bound.lastText?_append (bound : Bound) (tokens : List String) (token : String) :
    bound.lastText? (tokens ++ [token]) = (bound.text? token).or (bound.lastText? tokens) := by
  rw [lastText?, List.filterMap_append, List.getLast?_append]
  cases text : bound.text? token with
  | none => rw [List.filterMap_cons_none text]; rfl
  | some parameter => rw [List.filterMap_cons_some text]; rfl

/-- Each bound is the number that the last text for it stands for. -/
theorem Constraints.bound_ofTokens (declaration : Declaration) (tokens : List String)
    (bound : Bound) :
    (ofTokens declaration tokens).bound bound = (bound.lastText? tokens).bind Number.read? := by
  -- from the right, as a later rule takes the place of all before it
  induction tokens using List.reverseRecOn with
  | nil => cases bound <;> rfl
  | append_singleton tokens token inductionHypothesis =>
      have told := Clause.bound?_ofToken? declaration token bound
      rw [ofTokens_append, Bound.lastText?_append]
      cases given : Clause.ofToken? declaration token with
      | none =>
          rw [given, Option.bind_none, eq_comm, Option.map_eq_none_iff] at told
          rw [told, Option.none_or]
          exact inductionHypothesis
      | some clause =>
          rw [given, Option.bind_some] at told
          rw [Option.map_some, Option.getD_some, Clause.bound_add, told]
          cases bound.text? token with
          | none => exact inductionHypothesis
          | some parameter => rfl

end Formwork
