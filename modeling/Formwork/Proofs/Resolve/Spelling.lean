/-
This file compares a list of rules with the text that joins them between pipes: they declare the same
field up to its pattern, and the same pattern exactly if its rule is read alone in the list.
-/

import Formwork.Proofs.Resolve.Pattern

namespace Formwork

namespace Declaration

variable {rules : List String}

theorem textTokens_of_not_mem {rule : String} (unpiped : '|' ∉ rule.toList) :
    textTokens rule = [rule] := by
  rw [textTokens, Text.pieces_of_not_mem unpiped, List.map_singleton, String.ofList_toList]

/-- Rules without pipes are the tokens of their list. -/
theorem tokens_ofTexts_of_unpiped (unpiped : ∀ rule ∈ rules, '|' ∉ rule.toList) :
    (ofTexts rules).tokens = rules := by
  rw [tokens_ofTexts]
  induction rules with
  | nil => rfl
  | cons rule rest inductionHypothesis =>
      rw [List.forall_mem_cons] at unpiped
      rw [List.flatMap_cons, inductionHypothesis unpiped.2, textTokens_of_not_mem unpiped.1]
      rfl

/-- Rules without pipes are the tokens of the text that joins them. -/
theorem tokens_joined (nonempty : rules ≠ []) (unpiped : ∀ rule ∈ rules, '|' ∉ rule.toList) :
    (text ("|".intercalate rules)).tokens = rules :=
  Text.pieces_joined rfl nonempty unpiped

theorem toList_joined (first second : String) (rest : List String) :
    ("|".intercalate (first :: second :: rest)).toList =
      first.toList ++ '|' :: ("|".intercalate (second :: rest)).toList := by
  rw [String.toList_intercalate, String.toList_intercalate, List.map_cons, List.map_cons,
    List.intercalate_cons_cons, List.append_assoc]
  rfl

end Declaration

namespace Clause

/-- A pattern rule that is not taken for another one: it is the only rule, or it does not begin the
first rule, and the first of the others that it begins has no more text. -/
def ReadAlone (first : String) (rest : List String) (rule : List Char) : Prop :=
  rest = [] ∨ ¬rule <+: Text.trim first.toList ∧
    (rest.map fun other => Text.trim other.toList).find? rule.isPrefixOf = some rule

instance (first : String) (rest : List String) : DecidablePred (ReadAlone first rest) :=
  fun _ => inferInstanceAs (Decidable (_ ∨ _))

theorem trim_of_pattern? {source : List Char} {pattern : String}
    (valid : pattern? source = some pattern) :
    Text.trim source ≠ [] ∧ pattern = String.ofList (Text.trim source) := by
  rw [pattern?] at valid
  split at valid
  · cases valid
  · rename_i trimmed
    split at valid
    · cases valid
      rw [trimmed]
      exact ⟨List.cons_ne_nil _ _, rfl⟩
    · cases valid

/-- A rule that goes on gives another pattern. -/
theorem source?_ne {rule longer : List Char} {pattern : String} (begins : rule <+: longer)
    (differs : longer ≠ rule) (ends : ∀ c ∈ longer.getLast?, Text.isBlank c = false)
    (valid : source? rule = some pattern) : source? longer ≠ some pattern := by
  obtain ⟨more, rfl⟩ := begins
  have continued : more ≠ [] := by
    rintro rfl
    exact differs (List.append_nil rule)
  obtain ⟨source, after, isPattern⟩ := Option.bind_eq_some_iff.mp valid
  obtain ⟨nonempty, same⟩ := trim_of_pattern? isPattern
  rw [source?, Text.afterBytes?_append after, Option.bind_some]
  intro isLonger
  have sameLonger := (trim_of_pattern? isLonger).2
  rw [same] at sameLonger
  refine Text.trim_append_ne nonempty continued ?_ (String.ofList_injective sameLonger).symm
  intro c isLast
  refine ends c ?_
  rw [List.getLast?_append, Option.mem_def.mp isLast, Option.some_or]
  rfl

section

variable {first : String} {rest : List String} {rule : List Char}

/-- A pattern rule that begins the first rule of a list is taken for it. -/
theorem wholePattern_of_begins (gives : patternBeginning <+: Text.lowercase rule)
    (begins : rule <+: Text.trim first.toList) :
    wholePattern (.ofTexts (first :: rest)) rule = Text.trim first.toList := by
  rw [wholePattern_eq gives, Declaration.texts_ofTexts, List.map_cons, List.find?_cons_of_pos,
    Option.getD_some]
  exact List.isPrefixOf_iff_prefix.mpr begins

theorem wholePattern_of_not_begins (gives : patternBeginning <+: Text.lowercase rule)
    (begins : ¬rule <+: Text.trim first.toList) :
    wholePattern (.ofTexts (first :: rest)) rule =
      ((rest.map fun other => Text.trim other.toList).find? rule.isPrefixOf).getD rule := by
  rw [wholePattern_eq gives, Declaration.texts_ofTexts, List.map_cons, List.find?_cons_of_neg]
  rwa [List.isPrefixOf_iff_prefix]

/-- A pattern rule that begins a text is taken for all of it. -/
theorem wholePattern_text (gives : patternBeginning <+: Text.lowercase rule) (rules : String) :
    wholePattern (.text rules) rule =
      if rule <+: Text.trim rules.toList then Text.trim rules.toList else rule := by
  rw [wholePattern_eq gives, Declaration.texts, List.map_singleton, List.find?_singleton]
  simp only [List.isPrefixOf_iff_prefix]
  split <;> rfl

/-- A pattern rule in a list of rules without pipes. -/
structure PatternAmong (rules : List String) (rule : List Char) : Prop where
  gives : patternBeginning <+: Text.lowercase rule
  member : ∃ token ∈ rules, Text.trim token.toList = rule
  unpiped : ∀ token ∈ rules, '|' ∉ token.toList

namespace PatternAmong

variable (among : PatternAmong (first :: rest) rule)
include among

theorem ends : ∀ c ∈ rule.getLast?, Text.isBlank c = false := by
  obtain ⟨token, _, rfl⟩ := among.member
  exact Text.isBlank_getLast?_trim token.toList

theorem not_mem_trim {token : String} (member : token ∈ first :: rest) :
    '|' ∉ Text.trim token.toList :=
  fun piped => among.unpiped token member ((Text.trim_sublist _).mem piped)

theorem not_mem : '|' ∉ rule := by
  obtain ⟨token, member, rfl⟩ := among.member
  exact among.not_mem_trim member

/-- A pattern rule that begins the first of several rules is taken for all of the text that joins
them. -/
theorem wholePattern_joined (several : rest ≠ []) :
    wholePattern (.text ("|".intercalate (first :: rest))) rule =
      if rule <+: Text.trim first.toList then
        Text.trim ("|".intercalate (first :: rest)).toList
      else rule := by
  obtain ⟨second, others, rfl⟩ := List.exists_cons_of_ne_nil several
  rw [wholePattern_text among.gives, Declaration.toList_joined]
  exact if_congr
    (Text.prefix_trim_append_iff among.not_mem among.ends (by decide) _) rfl rfl

theorem wholePattern_joined_of_readAlone (alone : ReadAlone first rest rule) :
    wholePattern (.text ("|".intercalate (first :: rest))) rule =
      wholePattern (.ofTexts (first :: rest)) rule := by
  by_cases single : rest = []
  · rw [single, String.intercalate_singleton]
    rfl
  · obtain ⟨begins, found⟩ := alone.resolve_left single
    rw [among.wholePattern_joined single, if_neg begins,
      wholePattern_of_not_begins among.gives begins, found, Option.getD_some]

/-- The text that joins several rules gives another pattern than its first rule. -/
theorem source?_joined_ne (several : rest ≠ []) {pattern : String}
    (valid : source? (Text.trim first.toList) = some pattern) :
    source? (Text.trim ("|".intercalate (first :: rest)).toList) ≠ some pattern := by
  obtain ⟨second, others, rfl⟩ := List.exists_cons_of_ne_nil several
  have unpiped : '|' ∉ Text.trim first.toList := among.not_mem_trim List.mem_cons_self
  rw [Declaration.toList_joined]
  refine source?_ne ?_ ?_ (Text.isBlank_getLast?_trim _) valid
  · exact (Text.prefix_trim_append_iff unpiped (Text.isBlank_getLast?_trim _) (by decide) _).mpr
      (List.prefix_refl _)
  · intro same
    refine unpiped ?_
    rw [← same]
    exact Text.mem_trim (by decide) (List.mem_append_right _ List.mem_cons_self)

/-- A pattern rule that gives the same pattern in a list and joined is read alone. -/
theorem readAlone {pattern : String}
    (listed : source? (wholePattern (.ofTexts (first :: rest)) rule) = some pattern)
    (joined : source? (wholePattern (.text ("|".intercalate (first :: rest))) rule) =
      some pattern) :
    ReadAlone first rest rule := by
  refine Decidable.or_iff_not_imp_left.mpr fun several => ?_
  rw [among.wholePattern_joined several] at joined
  by_cases begins : rule <+: Text.trim first.toList
  · -- the first rule would end in the list where it goes on in the text
    rw [if_pos begins] at joined
    rw [wholePattern_of_begins among.gives begins] at listed
    exact absurd joined (among.source?_joined_ne several listed)
  · rw [if_neg begins] at joined
    rw [wholePattern_of_not_begins among.gives begins] at listed
    refine ⟨begins, ?_⟩
    cases found : (rest.map fun other => Text.trim other.toList).find? rule.isPrefixOf with
    | none =>
        obtain ⟨token, member, trimmed⟩ := among.member
        rcases List.mem_cons.mp member with rfl | later
        · exact absurd (trimmed ▸ List.prefix_refl _) begins
        · have missed := List.find?_eq_none.mp found rule
            (List.mem_map.mpr ⟨token, later, trimmed⟩)
          exact absurd (List.isPrefixOf_iff_prefix.mpr (List.prefix_refl rule)) missed
    | some longer =>
        rw [found, Option.getD_some] at listed
        obtain ⟨other, _, rfl⟩ := List.mem_map.mp (List.mem_of_find?_eq_some found)
        refine congrArg some (Decidable.byContradiction fun differs => ?_)
        exact source?_ne (List.isPrefixOf_iff_prefix.mp (List.find?_some found)) differs
          (Text.isBlank_getLast?_trim _) joined listed

end PatternAmong

theorem patternAmong_of_lastPattern? {rules : List String}
    (unpiped : ∀ token ∈ rules, '|' ∉ token.toList) (last : lastPattern? rules = some rule) :
    PatternAmong rules rule := by
  obtain ⟨token, member, gives, rfl⟩ := mem_of_lastPattern? last
  exact ⟨isPattern_iff.mp gives, ⟨token, member, rfl⟩, unpiped⟩

end

end Clause

/-- A list of rules and the text that joins them declare the same field, apart from the pattern. The
pattern is the same if its rule is read alone, and only then, unless the list gives no pattern. -/
theorem FieldInfo.ofRules_joined (options : CompileOptions) (path first : String)
    (rest : List String) (unpiped : ∀ rule ∈ first :: rest, '|' ∉ rule.toList) :
    let listed := ofRules options path (.list ((first :: rest).map .text))
    let joined := ofRules options path (.text ("|".intercalate (first :: rest)))
    joined = { listed with pattern := joined.pattern } ∧
      ((∀ rule ∈ Clause.lastPattern? (first :: rest), Clause.ReadAlone first rest rule) →
        joined = listed) ∧
      (joined = listed → listed.pattern.isSome = true →
        ∀ rule ∈ Clause.lastPattern? (first :: rest), Clause.ReadAlone first rest rule) := by
  intro listed joined
  have listedTokens := Declaration.tokens_ofTexts_of_unpiped unpiped
  have joinedTokens := Declaration.tokens_joined (List.cons_ne_nil first rest) unpiped
  have apart : joined = { listed with pattern := joined.pattern } :=
    ofRules_eq (joinedTokens.trans listedTokens.symm)
      (Declaration.objects_ofTexts (first :: rest)).symm options path
  have joinedPattern := pattern_ofRules options path (.text ("|".intercalate (first :: rest)))
  have listedPattern := pattern_ofRules options path (.ofTexts (first :: rest))
  rw [joinedTokens] at joinedPattern
  rw [listedTokens] at listedPattern
  refine ⟨apart, ?_, ?_⟩
  · intro alone
    have samePattern : joined.pattern = listed.pattern := by
      refine joinedPattern.trans (Eq.trans ?_ listedPattern.symm)
      cases last : Clause.lastPattern? (first :: rest) with
      | none => rfl
      | some rule =>
          have among := Clause.patternAmong_of_lastPattern? unpiped last
          simp only [Option.bind_some, among.wholePattern_joined_of_readAlone (alone rule last)]
    rw [apart, samePattern]
  · intro same valid rule last
    obtain ⟨pattern, isPattern⟩ := Option.isSome_iff_exists.mp valid
    have among := Clause.patternAmong_of_lastPattern? unpiped last
    rw [Option.mem_def.mp last, Option.bind_some] at joinedPattern listedPattern
    refine among.readAlone (listedPattern.symm.trans isPattern) ?_
    exact joinedPattern.symm.trans ((congrArg (·.pattern) same).trans isPattern)

/-- A pattern rule that does not come first is read alone, also from the text. -/
theorem FieldInfo.ofRules_joined_code :
    let rules := ["required", "regex:/^[a-z]+$/", "max:12"]
    (∀ rule ∈ rules, '|' ∉ rule.toList) ∧
      ofRules {} "code" (.text ("|".intercalate rules)) =
        ofRules {} "code" (.list (rules.map .text)) ∧
      (ofRules {} "code" (.list (rules.map .text))).pattern = some "/^[a-z]+$/" := by
  have unpiped : ∀ rule ∈ ["required", "regex:/^[a-z]+$/", "max:12"], '|' ∉ rule.toList := by decide
  have alone : ∀ rule ∈ Clause.lastPattern? ["required", "regex:/^[a-z]+$/", "max:12"],
      Clause.ReadAlone "required" ["regex:/^[a-z]+$/", "max:12"] rule := by decide
  exact ⟨unpiped, (ofRules_joined {} "code" "required" _ unpiped).2.1 alone, by decide +kernel⟩

/-- A pattern rule that comes first in a text goes on to its end. -/
theorem FieldInfo.joined_pattern_goes_on :
    let listed := ofRules {} "code" (.list [.text "regex:/a/", .text "required"])
    let joined := ofRules {} "code" (.text "regex:/a/|required")
    listed.pattern = some "/a/" ∧ joined.pattern = some "/a/|required" ∧ joined ≠ listed := by
  decide +kernel

end Formwork
