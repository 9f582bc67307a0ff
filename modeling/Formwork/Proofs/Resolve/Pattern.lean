/-
This file shows what pattern rules say: the last one gives the pattern, out of the declared text that
it begins, and all other constraints are those of the other rules.
-/

import Formwork.Resolve.Field
import Mathlib.Data.List.Basic
import Mathlib.Data.List.Induction

namespace Formwork

namespace Declaration

/-- The declaration by a list of texts. -/
def ofTexts (rules : List String) : Declaration :=
  .list (rules.map .text)

theorem tokens_ofTexts (rules : List String) :
    (ofTexts rules).tokens = rules.flatMap textTokens := by
  rw [ofTexts, tokens]
  induction rules with
  | nil => rfl
  | cons rule rest inductionHypothesis =>
      rw [List.map_cons, itemTokens, inductionHypothesis]
      rfl

theorem texts_ofTexts (rules : List String) : (ofTexts rules).texts = rules := by
  rw [ofTexts, texts]
  induction rules with
  | nil => rfl
  | cons rule rest inductionHypothesis =>
      rw [List.map_cons, itemTexts, inductionHypothesis]
      rfl

theorem objects_ofTexts (rules : List String) : (ofTexts rules).objects = [] := by
  rw [ofTexts, objects]
  induction rules with
  | nil => rfl
  | cons rule rest inductionHypothesis =>
      rw [List.map_cons, itemObjects, inductionHypothesis]
      rfl

end Declaration

namespace Clause

/-- The rules that give a pattern. -/
def isPattern (token : String) : Bool :=
  patternBeginning.isPrefixOf (Text.lowercase (Text.trim token.toList))

/-- The last rule that gives a pattern. -/
def lastPattern? (tokens : List String) : Option (List Char) :=
  (tokens.filter isPattern).getLast?.map fun token => Text.trim token.toList

/-- The pattern that a rule gives. -/
def source? (rule : List Char) : Option String :=
  (Text.afterBytes? 6 rule).bind pattern?

theorem noSigma_patternBeginning : ∀ c ∈ patternBeginning, c ≠ 'σ' ∧ c ≠ 'ς' := by
  simp [patternBeginning]

theorem isBlank_patternBeginning :
    ∀ c ∈ patternBeginning.getLast?, Text.isBlank c = false := by
  intro c isLast
  cases isLast
  decide

theorem isPattern_iff {token : String} :
    isPattern token = true ↔
      patternBeginning <+: Text.lowercase (Text.trim token.toList) :=
  List.isPrefixOf_iff_prefix

/-- A rule that gives a pattern says nothing else. -/
theorem ofToken?_of_isPattern {token : String} (gives : isPattern token = true)
    (declaration : Declaration) :
    ofToken? declaration token =
      some (.pattern (source? (wholePattern declaration (Text.trim token.toList)))) := by
  obtain ⟨rest, lower⟩ := isPattern_iff.mp gives
  rw [ofToken?, ← lower]
  rfl

/-- The declaration does not matter to any other rule. -/
theorem ofToken?_of_not_isPattern {token : String} (other : isPattern token = false)
    (declaration : Declaration) : ofToken? declaration token = ofToken? .absent token := by
  have differs : "regex:".toList.isPrefixOf? (Text.lowercase (Text.trim token.toList)) = none :=
    Text.isPrefixOf?_eq_none other
  simp only [ofToken?, classify?, parameterRules, List.findSome?_cons, differs, Option.map_none]

theorem ne_pattern_of_mem_parameterRules {declaration : Declaration} {token : List Char}
    {rule : String × (List Char → Option Clause)} (member : rule ∈ parameterRules declaration token)
    (other : rule.1 ≠ "regex:") (parameter : List Char) (source : Option String) :
    rule.2 parameter ≠ some (.pattern source) := by
  simp only [parameterRules, List.mem_cons, List.not_mem_nil, or_false] at member
  rcases member with rfl | rfl | rfl | rfl | rfl | rfl | rfl | rfl
  case inr.inr.inr.inl =>
    simp only [between?]
    split <;> nofun
  case inr.inr.inr.inr.inl => exact absurd rfl other
  all_goals nofun

/-- No other rule gives a pattern. -/
theorem ne_pattern_of_not_isPattern {token : String} (other : isPattern token = false)
    {declaration : Declaration} {clause : Clause}
    (given : ofToken? declaration token = some clause) (source : Option String) :
    clause ≠ .pattern source := by
  rintro rfl
  simp only [ofToken?, classify?] at given
  -- the three words and the conditional rules come before the rules with parameters
  split at given
  · cases given
  split at given
  · cases given
  split at given
  · cases given
  split at given
  · cases given
  split at given
  · rename_i found
    obtain ⟨rule, member, reads⟩ := List.exists_of_findSome?_eq_some found
    obtain ⟨parameter, begins, rfl⟩ := Option.map_eq_some_iff.mp reads
    refine ne_pattern_of_mem_parameterRules member ?_ parameter source given
    intro same
    have differs := Text.isPrefixOf?_eq_none other
    rw [patternBeginning, ← same, begins] at differs
    cases differs
  · split at given <;> cases given

theorem lastPattern?_append_of_isPattern {token : String} (gives : isPattern token = true)
    (before : List String) :
    lastPattern? (before ++ [token]) = some (Text.trim token.toList) := by
  simp [lastPattern?, List.filter_append, gives]

theorem lastPattern?_append_of_not_isPattern {token : String} (other : isPattern token = false)
    (before : List String) : lastPattern? (before ++ [token]) = lastPattern? before := by
  simp [lastPattern?, List.filter_append, other]

theorem mem_of_lastPattern? {tokens : List String} {rule : List Char}
    (last : lastPattern? tokens = some rule) :
    ∃ token ∈ tokens, isPattern token = true ∧ Text.trim token.toList = rule := by
  obtain ⟨token, isLast, same⟩ := Option.map_eq_some_iff.mp last
  obtain ⟨member, gives⟩ := List.mem_filter.mp (List.mem_of_getLast? isLast)
  exact ⟨token, member, gives, same⟩

/-- A pattern rule is looked for among the declared texts that it begins. -/
theorem wholePattern_eq {rule : List Char} (gives : patternBeginning <+: Text.lowercase rule)
    (declaration : Declaration) :
    wholePattern declaration rule =
      ((declaration.texts.map fun text => Text.trim text.toList).find?
        rule.isPrefixOf).getD rule := by
  have begins : ∀ text : List Char,
      (patternBeginning.isPrefixOf (Text.lowercase text) && rule.isPrefixOf text) =
        rule.isPrefixOf text := by
    intro text
    rw [Bool.and_eq_right_iff_imp, List.isPrefixOf_iff_prefix, List.isPrefixOf_iff_prefix]
    rintro ⟨rest, rfl⟩
    exact Text.prefix_lowercase_append noSigma_patternBeginning gives rest
  simp only [wholePattern, begins]

end Clause

namespace Constraints

theorem add_withPattern {clause : Clause} (other : ∀ source, clause ≠ .pattern source)
    (constraints : Constraints) (pattern : Option String) :
    { constraints with pattern := pattern }.add clause =
      { constraints.add clause with pattern := pattern } := by
  cases clause with
  | pattern source => exact absurd rfl (other source)
  | _ => rfl

theorem ofTokens_append (declaration : Declaration) (tokens : List String) (token : String) :
    ofTokens declaration (tokens ++ [token]) =
      ((Clause.ofToken? declaration token).map (ofTokens declaration tokens).add).getD
        (ofTokens declaration tokens) := by
  rw [ofTokens, List.filterMap_append, List.foldl_append]
  cases given : Clause.ofToken? declaration token with
  | none =>
      rw [List.filterMap_cons_none given]
      rfl
  | some clause =>
      rw [List.filterMap_cons_some given]
      rfl

/-- The last pattern rule gives the pattern, and the other rules say all else. -/
theorem ofTokens_eq (declaration : Declaration) (tokens : List String) :
    ofTokens declaration tokens =
      { ofTokens .absent (tokens.filter (!Clause.isPattern ·)) with
        pattern := (Clause.lastPattern? tokens).bind fun rule =>
          Clause.source? (Clause.wholePattern declaration rule) } := by
  -- from the right, as a pattern rule takes the place of all before it
  induction tokens using List.reverseRecOn with
  | nil => rfl
  | append_singleton tokens token inductionHypothesis =>
      rw [ofTokens_append, inductionHypothesis, List.filter_append]
      cases kind : Clause.isPattern token with
      | true =>
          rw [Clause.ofToken?_of_isPattern kind, Clause.lastPattern?_append_of_isPattern kind,
            List.filter_cons_of_neg (by simp [kind]), List.filter_nil, List.append_nil]
          rfl
      | false =>
          rw [Clause.lastPattern?_append_of_not_isPattern kind,
            List.filter_cons_of_pos (by simp [kind]), List.filter_nil, ofTokens_append,
            Clause.ofToken?_of_not_isPattern kind]
          cases given : Clause.ofToken? .absent token with
          | none => rfl
          | some clause =>
              exact add_withPattern (Clause.ne_pattern_of_not_isPattern kind given) _ _

section

variable {tokens : List String} (others : ∀ token ∈ tokens, Clause.isPattern token = false)
include others

theorem filter_isPattern : tokens.filter Clause.isPattern = [] := by
  rw [List.filter_eq_nil_iff]
  exact fun token member => by simp [others token member]

theorem filter_not_isPattern : tokens.filter (!Clause.isPattern ·) = tokens := by
  rw [List.filter_eq_self]
  exact fun token member => by simp [others token member]

/-- Without a pattern rule there is no pattern. -/
theorem ofTokens_of_others (declaration : Declaration) :
    ofTokens declaration tokens = { ofTokens .absent tokens with pattern := none } := by
  rw [ofTokens_eq, filter_not_isPattern others, Clause.lastPattern?, filter_isPattern others]
  rfl

end

/-- A single pattern rule gives the pattern, wherever it stands. -/
theorem ofTokens_of_single {before after : List String} {token : String}
    (gives : Clause.isPattern token = true)
    (others : ∀ other ∈ before ++ after, Clause.isPattern other = false)
    (declaration : Declaration) :
    ofTokens declaration (before ++ token :: after) =
      { ofTokens .absent (before ++ after) with
        pattern := Clause.source?
          (Clause.wholePattern declaration (Text.trim token.toList)) } := by
  have noPattern := filter_isPattern others
  have allOthers := filter_not_isPattern others
  rw [List.filter_append, List.append_eq_nil_iff] at noPattern
  rw [List.filter_append] at allOthers
  rw [ofTokens_eq, Clause.lastPattern?, List.filter_append, List.filter_append,
    List.filter_cons_of_pos gives, List.filter_cons_of_neg (by simp [gives]), allOthers,
    noPattern.1, noPattern.2]
  rfl

end Constraints

/-- Declarations of the same tokens and rule objects differ in the pattern at most. -/
theorem FieldInfo.ofRules_eq {first second : Declaration} (tokens : first.tokens = second.tokens)
    (objects : first.objects = second.objects) (options : CompileOptions) (path : String) :
    ofRules options path first =
      { ofRules options path second with
        pattern := (ofRules options path first).pattern } := by
  simp only [ofRules, Enumeration.choices?, Enumeration.customType?, tokens, objects,
    Constraints.ofTokens_eq first, Constraints.ofTokens_eq second]

theorem FieldInfo.pattern_ofRules (options : CompileOptions) (path : String)
    (declaration : Declaration) :
    (ofRules options path declaration).pattern =
      (Clause.lastPattern? declaration.tokens).bind fun rule =>
        Clause.source? (Clause.wholePattern declaration rule) := by
  rw [ofRules, Constraints.ofTokens_eq]

end Formwork
