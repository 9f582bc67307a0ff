/-
This file shows that the rules of a field are read without cutting a text beyond its end or inside a
character, and without taking an element that a list does not have. What is read is told by readers
that stop at any such access.
-/

import Formwork.Proofs.Text.Cut
import Formwork.Resolve.Field

namespace Formwork

/-- An access that cannot be made. -/
inductive Fault where
  /-- A text is cut beyond its end or inside a character. -/
  | cut (bytes : Nat) (text : List Char)
  /-- A list has no element at a place. -/
  | element (place length : Nat)

/-- The text behind its first bytes, if a character ends there. -/
def checkedAfter (bytes : Nat) (cs : List Char) : Except Fault (List Char) :=
  match Text.afterBytes? bytes cs with
  | some rest => pure rest
  | none => throw (.cut bytes cs)

/-- The element at a place of a list, if it has one there. -/
def checkedElement {α : Type} (elements : List α) (place : Nat) : Except Fault α :=
  match elements[place]? with
  | some element => pure element
  | none => throw (.element place elements.length)

/-- Texts are cut behind whole characters only. -/
theorem checkedAfter_eq_ok_iff {bytes : Nat} {cs rest : List Char} :
    checkedAfter bytes cs = .ok rest ↔
      ∃ before, cs = before ++ rest ∧ Text.byteCount before = bytes := by
  rw [← Text.afterBytes?_eq_some_iff, checkedAfter]
  cases Text.afterBytes? bytes cs with
  | none => exact iff_of_false nofun nofun
  | some others => exact (Iff.of_eq (Except.ok.injEq others rest)).trans Option.some_inj.symm

example : checkedAfter 3 "iné".toList = .error (.cut 3 "iné".toList) := rfl

theorem checkedElement_eq_ok_iff {α : Type} {elements : List α} {place : Nat} {element : α} :
    checkedElement elements place = .ok element ↔
      ∃ inside : place < elements.length, elements[place] = element := by
  rw [← List.getElem?_eq_some_iff, checkedElement]
  cases elements[place]? with
  | none => exact iff_of_false nofun nofun
  | some other => exact (Iff.of_eq (Except.ok.injEq other element)).trans Option.some_inj.symm

namespace Enumeration

/-- The values that a token lists, behind its first three bytes. -/
def checkedValues (token : String) : Except Fault (Option (List Json)) :=
  let trimmed := Text.trim token.toList
  if beginning.isPrefixOf (Text.lowercase trimmed) then do
    let values ← checkedAfter 3 trimmed
    return some ((readValues false {} values).map .str)
  else return none

/-- The values to choose from, for which all tokens are read. -/
def checkedChoices (declaration : Declaration) (tokens : List String) :
    Except Fault (Option (List Json)) := do
  let values ← tokens.mapM checkedValues
  return (declaration.objects.filterMap objectValues?).getLast? <|> (values.filterMap id).getLast?

theorem isPlainMark_beginning : Text.IsPlainMark beginning :=
  ⟨by simp [beginning], by decide, by decide⟩

theorem checkedValues_eq (token : String) : checkedValues token = pure (tokenValues? token) := by
  rw [checkedValues, tokenValues?]
  split
  · rename_i begins
    obtain ⟨values, cut⟩ :=
      isPlainMark_beginning.exists_afterBytes? (List.isPrefixOf_iff_prefix.mp begins)
    have isCut : Text.afterBytes? 3 (Text.trim token.toList) = some values := cut
    rw [checkedAfter, isCut]
    rfl
  · rfl

theorem checkedChoices_eq (declaration : Declaration) (tokens : List String) :
    checkedChoices declaration tokens = pure (choices? declaration tokens) := by
  rw [checkedChoices, funext checkedValues_eq, List.mapM_pure, pure_bind, List.filterMap_map,
    choices?]
  rfl

end Enumeration

/-- The conditional clause of a token. A rule on one field takes the first of its parameters. -/
def Conditional.checkedOfToken (lower token : List Char) : Except Fault (Option Conditional) :=
  let name := ruleName lower
  if singleField.contains name || manyFields.contains name || standalone.contains name then
    match Text.cutFirst? ':' token with
    | none => return some { rule := name }
    | some (_, parameters) =>
        let parts := (Text.pieces ',' parameters).map fun part => String.ofList (Text.trim part)
        if singleField.contains name then do
          let field ← checkedElement parts 0
          return some { rule := name, field := some field, value := some (parts[1]?.getD "") }
        else if manyFields.contains name then return some { rule := name, fields := some parts }
        else return none
  else return none

theorem Conditional.checkedOfToken_eq (lower token : List Char) :
    checkedOfToken lower token = pure (ofToken? lower token) := by
  simp only [checkedOfToken, ofToken?]
  split
  · cases Text.cutFirst? ':' token with
    | none => rfl
    | some cut =>
        obtain ⟨first, others, isPieces⟩ :=
          List.exists_cons_of_ne_nil (Text.pieces_ne_nil ',' cut.2)
        dsimp only
        rw [isPieces, List.map_cons]
        split
        · rfl
        · split <;> rfl
  · rfl

namespace Clause

/-- A pattern that closes the delimiter that it opens, which is looked for behind it. -/
def checkedPattern (source : List Char) : Except Fault (Option String) :=
  match Text.trim source with
  | [] => return none
  | first :: rest =>
      if Text.isAlphanumeric first || first == '\\' || Text.isBlank first then
        return some (String.ofList (first :: rest))
      else do
        let body ← checkedAfter first.utf8Size (first :: rest)
        return if body.contains (closing first) then some (String.ofList (first :: rest)) else none

/-- The clause of a pattern token, behind the first six bytes of the declared text. -/
def checkedOfPattern (declaration : Declaration) (token : List Char) : Except Fault Clause := do
  let source ← checkedAfter 6 (wholePattern declaration token)
  return pattern (← checkedPattern source)

/-- The rules with parameters, of which that on a pattern cuts texts. -/
def checkedRules (declaration : Declaration) (token : List Char) :
    List (String × (List Char → Except Fault (Option Clause))) :=
  (parameterRules declaration token).map fun (beginning, clause?) =>
    (beginning, fun parameter =>
      if beginning = "regex:" then some <$> checkedOfPattern declaration token
      else pure (clause? parameter))

def checkedClassify (declaration : Declaration) (lower token : List Char) :
    Except Fault (Option Clause) :=
  if lower = "required".toList then return some required
  else if lower = "nullable".toList then return some nullable
  else if lower = "confirmed".toList then return some confirmed
  else do
    match ← Conditional.checkedOfToken lower token with
    | some clause => return some (conditional clause)
    | none =>
        let parameter? := (checkedRules declaration token).findSome? fun (beginning, clause) =>
          (beginning.toList.isPrefixOf? lower).map clause
        match parameter? with
        | some clause => clause
        | none => return if isRequiredClass lower then some required else none

def checkedOfToken (declaration : Declaration) (token : String) : Except Fault (Option Clause) :=
  let trimmed := Text.trim token.toList
  checkedClassify declaration (Text.lowercase trimmed) trimmed

theorem isPlainMark_patternBeginning : Text.IsPlainMark patternBeginning :=
  ⟨by simp [patternBeginning], by decide, by decide⟩

theorem checkedPattern_eq (source : List Char) :
    checkedPattern source = pure (pattern? source) := by
  rw [checkedPattern, pattern?]
  cases Text.trim source with
  | nil => rfl
  | cons first rest =>
      dsimp only
      rw [checkedAfter, Text.afterBytes?_utf8Size]
      cases Text.isAlphanumeric first || first == '\\' || Text.isBlank first <;> rfl

/-- The declared text begins like the token, whichever of them it is. -/
theorem prefix_wholePattern {token : List Char} (begins : patternBeginning <+: Text.lowercase token)
    (declaration : Declaration) :
    patternBeginning <+: Text.lowercase (wholePattern declaration token) := by
  rw [wholePattern]
  cases found : List.find? _ _ with
  | none => exact begins
  | some text =>
      have both := List.find?_some found
      rw [Bool.and_eq_true, List.isPrefixOf_iff_prefix] at both
      exact both.1

theorem checkedOfPattern_eq {token : List Char} (begins : patternBeginning <+: Text.lowercase token)
    (declaration : Declaration) :
    checkedOfPattern declaration token = pure (ofPattern declaration token) := by
  obtain ⟨source, cut⟩ :=
    isPlainMark_patternBeginning.exists_afterBytes? (prefix_wholePattern begins declaration)
  have isCut : Text.afterBytes? 6 (wholePattern declaration token) = some source := cut
  rw [checkedOfPattern, checkedAfter, isCut, ofPattern, isCut, Option.bind_some]
  dsimp only
  rw [pure_bind, checkedPattern_eq, pure_bind]

/-- No rule with parameters stops at a token that begins with it. -/
theorem checkedRule_eq {declaration : Declaration} {token : List Char}
    {rule : String × (List Char → Option Clause)}
    (member : rule ∈ parameterRules declaration token) :
    (rule.1.toList.isPrefixOf? (Text.lowercase token)).map (fun parameter =>
        if rule.1 = "regex:" then some <$> checkedOfPattern declaration token
        else pure (rule.2 parameter)) =
      (rule.1.toList.isPrefixOf? (Text.lowercase token)).map fun parameter =>
        pure (rule.2 parameter) := by
  refine Option.map_congr fun parameter begins => ?_
  simp only [parameterRules, List.mem_cons, List.not_mem_nil, or_false] at member
  rcases member with rfl | rfl | rfl | rfl | rfl | rfl | rfl | rfl
  case inr.inr.inr.inr.inl =>
    have isPattern : patternBeginning <+: Text.lowercase token :=
      ⟨parameter, List.append_eq_of_isPrefixOf?_eq_some begins⟩
    rw [if_pos rfl, checkedOfPattern_eq isPattern]
    rfl
  all_goals rfl

theorem findSome?_checkedRules (declaration : Declaration) (token : List Char) :
    (checkedRules declaration token).findSome? (fun (beginning, clause) =>
        (beginning.toList.isPrefixOf? (Text.lowercase token)).map clause) =
      ((parameterRules declaration token).findSome? fun (beginning, clause?) =>
        (beginning.toList.isPrefixOf? (Text.lowercase token)).map clause?).map pure := by
  rw [checkedRules, List.findSome?_map, List.map_findSome?, ← List.head?_filterMap,
    ← List.head?_filterMap]
  refine congrArg List.head? (List.filterMap_congr fun rule member => ?_)
  exact (checkedRule_eq member).trans (Option.map_map ..).symm

theorem checkedClassify_eq (declaration : Declaration) (token : List Char) :
    checkedClassify declaration (Text.lowercase token) token =
      pure (classify? declaration (Text.lowercase token) token) := by
  simp only [checkedClassify, classify?]
  split
  · rfl
  split
  · rfl
  split
  · rfl
  rw [Conditional.checkedOfToken_eq, pure_bind]
  cases Conditional.ofToken? (Text.lowercase token) token with
  | some clause => rfl
  | none =>
      dsimp only
      rw [findSome?_checkedRules]
      cases List.findSome? _ (parameterRules declaration token) <;> rfl

theorem checkedOfToken_eq (declaration : Declaration) (token : String) :
    checkedOfToken declaration token = pure (ofToken? declaration token) :=
  checkedClassify_eq declaration (Text.trim token.toList)

end Clause

namespace Constraints

/-- The constraints of the tokens, all of which are read. -/
def checkedOfTokens (declaration : Declaration) (tokens : List String) :
    Except Fault Constraints := do
  let clauses ← tokens.mapM (Clause.checkedOfToken declaration)
  return (clauses.filterMap id).foldl add {}

theorem checkedOfTokens_eq (declaration : Declaration) (tokens : List String) :
    checkedOfTokens declaration tokens = pure (ofTokens declaration tokens) := by
  rw [checkedOfTokens, funext (Clause.checkedOfToken_eq declaration), List.mapM_pure, pure_bind,
    List.filterMap_map]
  rfl

end Constraints

/-- No access stops the reading of the rules of a field, whatever they are. -/
theorem FieldInfo.accesses_inside (declaration : Declaration) (tokens : List String) :
    Enumeration.checkedChoices declaration tokens =
        .ok (Enumeration.choices? declaration tokens) ∧
      Constraints.checkedOfTokens declaration tokens =
        .ok (Constraints.ofTokens declaration tokens) ∧
      (∀ bytes cs rest, checkedAfter bytes cs = .ok rest ↔
        ∃ before, cs = before ++ rest ∧ Text.byteCount before = bytes) ∧
      ∀ (elements : List String) place element,
        checkedElement elements place = .ok element ↔
          ∃ inside : place < elements.length, elements[place] = element :=
  ⟨Enumeration.checkedChoices_eq declaration tokens,
    Constraints.checkedOfTokens_eq declaration tokens,
    fun _ _ _ => checkedAfter_eq_ok_iff, fun _ _ _ => checkedElement_eq_ok_iff⟩

end Formwork
