/-
This file shows what a pattern adds as an entry of its own to a list of rules: the pattern and no
more, as long as its pieces between pipes say nothing as rules.
-/

import Formwork.Proofs.Resolve.Pattern

namespace Formwork

/-- The endings of class names that tell a type. -/
def classEndings : List String :=
  fileEndings ++ ["\\password", "\\email"]

theorem endsWithAny_eq_false {endings : List String} {cs : List Char} {c : Char}
    (ends : cs.getLast? = some c)
    (others : ∀ ending ∈ endings, ∃ last ∈ ending.toList.getLast?, last ≠ c) :
    endsWithAny endings cs = false := by
  rw [endsWithAny, List.any_eq_false]
  intro ending member isSuffix
  obtain ⟨last, isLast, differs⟩ := others ending member
  obtain ⟨before, rfl⟩ := List.isSuffixOf_iff_suffix.mp isSuffix
  rw [List.getLast?_append, Option.mem_def.mp isLast, Option.some_or] at ends
  exact differs (Option.some.inj ends)

section

variable {token : String} (gives : Clause.isPattern token = true)
include gives

theorem Enumeration.tokenValues?_of_isPattern : tokenValues? token = none := by
  obtain ⟨rest, lower⟩ := Clause.isPattern_iff.mp gives
  rw [tokenValues?, ← lower]
  rfl

/-- Only by its name or its ending could a pattern rule tell a type. -/
theorem tokenResolution?_of_isPattern {options : CompileOptions}
    (notDynamic : options.isDynamicType "regex" = false)
    (noClass : endsWithAny classEndings (Text.lowercase (Text.trim token.toList)) = false) :
    tokenResolution? options token = none := by
  obtain ⟨rest, lower⟩ := Clause.isPattern_iff.mp gives
  rw [← lower] at noClass
  have noEnding : ∀ endings : List String, endings ⊆ classEndings →
      endsWithAny endings (Clause.patternBeginning ++ rest) = false := by
    intro endings part
    rw [endsWithAny, List.any_eq_false]
    exact fun ending member => List.any_eq_false.mp noClass ending (part member)
  have noName : fileRules.contains (String.ofList (Clause.patternBeginning ++ rest)) = false := by
    simp [fileRules, ← String.toList_inj, Clause.patternBeginning]
  have noFile : isFileIndicator (Clause.patternBeginning ++ rest) = false := by
    rw [isFileIndicator, noName, noEnding _ (by decide)]
    rfl
  have name : ruleName (Clause.patternBeginning ++ rest) = "regex" := rfl
  have notNative : FieldType.nativeRules.find? "regex" = none := by decide
  have noDate : beginsWithAny dateBeginnings (Clause.patternBeginning ++ rest) = false := rfl
  have told : tokenResolution? options token =
      classify? options (Clause.patternBeginning ++ rest) := by
    simp only [tokenResolution?, ← lower]
    rfl
  rw [told, classify?, noFile, name, notNative, noDate]
  simp [notDynamic, noEnding ["\\password"] (by decide), noEnding ["\\email"] (by decide)]

end

namespace Clause

theorem trimStart_of_begins {cs : List Char} (begins : patternBeginning <+: cs) :
    Text.trimStart cs = cs := by
  obtain ⟨rest, rfl⟩ := begins
  refine Text.trimStart_eq_self fun c isFirst => ?_
  cases isFirst
  decide

theorem begins_trim {cs : List Char} (begins : patternBeginning <+: cs) :
    patternBeginning <+: Text.trim cs := by
  rw [Text.prefix_trim_iff isBlank_patternBeginning, trimStart_of_begins begins]
  exact begins

theorem lowercase_begins {cs : List Char} (begins : patternBeginning <+: cs) :
    patternBeginning <+: Text.lowercase cs := by
  obtain ⟨rest, rfl⟩ := begins
  exact ⟨Text.lowercaseAfter patternBeginning.reverse rest, rfl⟩

theorem isPattern_entry (source : String) : isPattern ("regex:" ++ source) = true := by
  rw [isPattern_iff, String.toList_append]
  exact lowercase_begins (begins_trim (List.prefix_append _ _))

end Clause

namespace Declaration

/-- The pieces of a pattern are those of its entry, where the first one is named a pattern. -/
theorem textTokens_entry (source : String) :
    ∃ first rest, textTokens source = first :: rest ∧
      textTokens ("regex:" ++ source) = ("regex:" ++ first) :: rest ∧
      first.toList <+: source.toList ∧ (rest = [] → first = source) := by
  have unpiped : '|' ∉ Clause.patternBeginning := by decide
  obtain ⟨first, others, isPieces, entryPieces⟩ := Text.pieces_append unpiped source.toList
  obtain ⟨begins, whole⟩ := Text.pieces_begins isPieces
  refine ⟨String.ofList first, others.map String.ofList, ?_, ?_, ?_, ?_⟩
  · rw [textTokens, isPieces, List.map_cons]
  · rw [textTokens, String.toList_append, ← Clause.patternBeginning, entryPieces, List.map_cons,
      String.ofList_append]
    rfl
  · rwa [String.toList_ofList]
  · intro single
    rw [whole (List.map_eq_nil_iff.mp single), String.ofList_toList]

/-- A text that begins like a pattern rule has one. -/
theorem exists_isPattern {rules : String}
    (begins : Clause.patternBeginning <+: Text.trim rules.toList) :
    ∃ token ∈ textTokens rules, Clause.isPattern token = true := by
  have visible := Clause.isBlank_patternBeginning
  obtain ⟨rest, started⟩ := (Text.prefix_trim_iff visible).mp begins
  have blank : ∀ c ∈ rules.toList.takeWhile Text.isBlank, Text.isBlank c = true :=
    List.all_eq_true.mp List.all_takeWhile
  have whole := List.takeWhile_append_dropWhile (p := Text.isBlank) (l := rules.toList)
  rw [← Text.trimStart, ← started, ← List.append_assoc] at whole
  have unpiped : '|' ∉ rules.toList.takeWhile Text.isBlank ++ Clause.patternBeginning := by
    rw [List.mem_append, not_or]
    exact ⟨fun piped => absurd (blank '|' piped) (by decide), by decide⟩
  obtain ⟨first, others, -, isPieces⟩ := Text.pieces_append unpiped rest
  rw [whole] at isPieces
  refine ⟨_, List.mem_map_of_mem (isPieces ▸ List.mem_cons_self),
    Clause.isPattern_iff.mpr (Clause.lowercase_begins ?_)⟩
  rw [String.toList_ofList, Text.prefix_trim_iff visible, Text.trimStart, List.append_assoc,
    List.dropWhile_append_of_pos blank, ← Text.trimStart,
    Clause.trimStart_of_begins (List.prefix_append _ _)]
  exact List.prefix_append _ _

end Declaration

namespace Clause

variable {before after : List String} {source : String}

/-- A text that begins and ends with a delimiter is a pattern. -/
theorem source?_entry {body : List Char} (delimited : source.toList = '/' :: (body ++ ['/'])) :
    source? (patternBeginning ++ source.toList) = some source := by
  have trimmed : Text.trim source.toList = '/' :: (body ++ ['/']) := by
    rw [delimited, Text.trim_between (by decide) (by decide)]
  have cut : Text.afterBytes? 6 (patternBeginning ++ source.toList) = some source.toList := by
    simp [patternBeginning, Text.afterBytes?, Char.utf8Size]
  rw [source?, cut, Option.bind_some, pattern?, trimmed]
  simp [closing, ← delimited]

theorem trim_entry {body : List Char} (delimited : source.toList = '/' :: (body ++ ['/'])) :
    Text.trim (patternBeginning ++ source.toList) = patternBeginning ++ source.toList := by
  have isEntry : patternBeginning ++ source.toList =
      'r' :: ("egex:".toList ++ '/' :: body ++ ['/']) := by
    rw [delimited, List.append_assoc]
    rfl
  rw [isEntry, Text.trim_between (by decide) (by decide)]

/-- The rule that an entry begins with is taken for all of the entry. -/
theorem wholePattern_entry
    (noPattern : ∀ rules ∈ before, ∀ token ∈ Declaration.textTokens rules, isPattern token = false)
    {first : List Char} (begins : first <+: source.toList) :
    wholePattern (.ofTexts (before ++ ("regex:" ++ source) :: after))
        (Text.trim (patternBeginning ++ first)) =
      Text.trim (patternBeginning ++ source.toList) := by
  have isEntry : ("regex:" ++ source).toList = patternBeginning ++ source.toList :=
    String.toList_append
  have named : patternBeginning <+: Text.trim (patternBeginning ++ first) :=
    begins_trim (List.prefix_append _ _)
  have gives : patternBeginning <+: Text.lowercase (Text.trim (patternBeginning ++ first)) :=
    lowercase_begins named
  have notBefore :
      (before.map fun rules => Text.trim rules.toList).find?
        (Text.trim (patternBeginning ++ first)).isPrefixOf = none := by
    rw [List.find?_eq_none, List.forall_mem_map]
    intro rules member found
    -- a text that the rule begins would have a pattern rule itself
    obtain ⟨token, isToken, isPattern⟩ :=
      Declaration.exists_isPattern (named.trans (List.isPrefixOf_iff_prefix.mp found))
    rw [noPattern rules member token isToken] at isPattern
    cases isPattern
  have inEntry : Text.trim (patternBeginning ++ first) <+:
      Text.trim (patternBeginning ++ source.toList) := by
    rw [Text.prefix_trim_iff (Text.isBlank_getLast?_trim _),
      trimStart_of_begins (List.prefix_append _ _), Text.trim,
      trimStart_of_begins (List.prefix_append _ _)]
    exact (Text.trimEnd_begins _).trans ((List.prefix_append_right_inj _).mpr begins)
  rw [wholePattern_eq gives, Declaration.texts_ofTexts, List.map_append, List.map_cons,
    List.find?_append, notBefore, Option.none_or, isEntry,
    List.find?_cons_of_pos (List.isPrefixOf_iff_prefix.mpr inEntry), Option.getD_some]

/-- A pattern without pipes does not end like a class. -/
theorem noClass_entry {body : List Char} (delimited : source.toList = '/' :: (body ++ ['/'])) :
    endsWithAny classEndings (Text.lowercase (Text.trim ("regex:" ++ source).toList)) = false := by
  have isEntry : patternBeginning ++ source.toList = patternBeginning ++ '/' :: body ++ ['/'] := by
    rw [delimited, List.append_assoc, List.cons_append]
  rw [String.toList_append, ← patternBeginning, trim_entry delimited, isEntry]
  refine endsWithAny_eq_false (Text.getLast?_lowercaseAfter (by decide) (by decide) _ _) ?_
  simp [classEndings, fileEndings]

end Clause

section

variable {before after : List String} {source : String} {body : List Char}

/-- The tokens of a list with a pattern as an entry of its own, where the pieces of the pattern behind
its pipes are rules like all others. -/
theorem Declaration.tokens_entry (before after : List String) (source : String) :
    ∃ first rest, textTokens source = first :: rest ∧
      (ofTexts (before ++ ("regex:" ++ source) :: after)).tokens =
        before.flatMap textTokens ++ ("regex:" ++ first) :: (rest ++ after.flatMap textTokens) ∧
      first.toList <+: source.toList ∧ (rest = [] → first = source) := by
  obtain ⟨first, rest, isPieces, entryPieces, begins, whole⟩ := textTokens_entry source
  refine ⟨first, rest, isPieces, ?_, begins, whole⟩
  rw [tokens_ofTexts, List.flatMap_append, List.flatMap_cons, entryPieces, List.cons_append]

/-- An entry adds its pattern and what its pieces behind pipes say. -/
theorem Constraints.ofTokens_entry
    (noPattern : ∀ rules ∈ before ++ after, ∀ token ∈ Declaration.textTokens rules,
      Clause.isPattern token = false)
    (delimited : source.toList = '/' :: (body ++ ['/']))
    (others : ∀ piece ∈ (Declaration.textTokens source).tail, Clause.isPattern piece = false) :
    ofTokens (.ofTexts (before ++ ("regex:" ++ source) :: after))
        (Declaration.ofTexts (before ++ ("regex:" ++ source) :: after)).tokens =
      { ofTokens .absent
          (before.flatMap Declaration.textTokens ++
            ((Declaration.textTokens source).tail ++ after.flatMap Declaration.textTokens)) with
        pattern := some source } := by
  obtain ⟨first, rest, isPieces, isTokens, begins, -⟩ :=
    Declaration.tokens_entry before after source
  rw [isPieces, List.tail_cons] at others
  rw [List.forall_mem_append] at noPattern
  have othersAround : ∀ token ∈ before.flatMap Declaration.textTokens ++
      (rest ++ after.flatMap Declaration.textTokens), Clause.isPattern token = false := by
    rw [List.forall_mem_append, List.forall_mem_append, List.forall_mem_flatMap,
      List.forall_mem_flatMap]
    exact ⟨noPattern.1, others, noPattern.2⟩
  have isSource : Clause.source?
      (Clause.wholePattern (.ofTexts (before ++ ("regex:" ++ source) :: after))
        (Text.trim ("regex:" ++ first).toList)) = some source := by
    rw [String.toList_append, ← Clause.patternBeginning,
      Clause.wholePattern_entry noPattern.1 begins, Clause.trim_entry delimited,
      Clause.source?_entry delimited]
  rw [isTokens, ofTokens_of_single (Clause.isPattern_entry first) othersAround, isSource, isPieces,
    List.tail_cons]

/-- An entry tells no type but what its pieces behind pipes tell. -/
theorem resolveType_entry {options : CompileOptions} (before after : List String)
    (delimited : source.toList = '/' :: (body ++ ['/']))
    (notDynamic : options.isDynamicType "regex" = false)
    (noClass : ∀ piece ∈ (Declaration.textTokens source).dropLast.head?,
      endsWithAny classEndings (Text.lowercase (Text.trim ("regex:" ++ piece).toList)) = false) :
    resolveType options (Declaration.ofTexts (before ++ ("regex:" ++ source) :: after)).tokens =
      resolveType options
        (before.flatMap Declaration.textTokens ++
          ((Declaration.textTokens source).tail ++ after.flatMap Declaration.textTokens)) := by
  obtain ⟨first, rest, isPieces, isTokens, -, whole⟩ :=
    Declaration.tokens_entry before after source
  have noClassFirst :
      endsWithAny classEndings (Text.lowercase (Text.trim ("regex:" ++ first).toList)) = false := by
    cases rest with
    | nil =>
        rw [whole rfl]
        exact Clause.noClass_entry delimited
    | cons next rest => exact noClass first (by rw [isPieces]; rfl)
  have noType : tokenResolution? options ("regex:" ++ first) = none :=
    tokenResolution?_of_isPattern (Clause.isPattern_entry first) notDynamic noClassFirst
  rw [isTokens, isPieces, List.tail_cons, resolveType, List.filterMap_append,
    List.filterMap_cons_none noType, ← List.filterMap_append]
  rfl

/-- An entry lists no values but what its pieces behind pipes list. -/
theorem Enumeration.choices?_entry (before after : List String) (source : String) :
    choices? (.ofTexts (before ++ ("regex:" ++ source) :: after))
        (Declaration.ofTexts (before ++ ("regex:" ++ source) :: after)).tokens =
      choices? .absent
        (before.flatMap Declaration.textTokens ++
          ((Declaration.textTokens source).tail ++ after.flatMap Declaration.textTokens)) := by
  obtain ⟨first, rest, isPieces, isTokens, -, -⟩ := Declaration.tokens_entry before after source
  have noValues : tokenValues? ("regex:" ++ first) = none :=
    tokenValues?_of_isPattern (Clause.isPattern_entry first)
  rw [choices?, choices?, Declaration.objects_ofTexts, isTokens, isPieces, List.tail_cons,
    List.filterMap_append, List.filterMap_cons_none noValues, ← List.filterMap_append]
  rfl

end

/-- The pieces of a pattern tell no type: those behind pipes as rules, the one in front of the first
pipe as the name of a class. -/
structure TypeSilent (options : CompileOptions) (source : String) : Prop where
  notDynamic : options.isDynamicType "regex" = false
  noClass : ∀ piece ∈ (Declaration.textTokens source).dropLast.head?,
    endsWithAny classEndings (Text.lowercase (Text.trim ("regex:" ++ piece).toList)) = false
  noType : ∀ piece ∈ (Declaration.textTokens source).tail, tokenResolution? options piece = none

theorem Clause.isPattern_of_silent {token : String}
    (silent : ofToken? .absent token = none) : isPattern token = false := by
  refine Bool.eq_false_iff.mpr fun isPattern => ?_
  rw [ofToken?_of_isPattern isPattern] at silent
  cases silent

theorem filterMap_silent {α β : Type} {f : α → Option β} {silent : List α}
    (silence : ∀ a ∈ silent, f a = none) (before after : List α) :
    (before ++ (silent ++ after)).filterMap f = (before ++ after).filterMap f := by
  rw [List.filterMap_append, List.filterMap_append, List.filterMap_append,
    List.filterMap_eq_nil_iff.mpr silence, List.nil_append]

/-- A pattern as an entry of its own adds the pattern to the constraints and no more if no piece of it
behind a pipe is a constraint. It changes neither the type nor the choice if its pieces say nothing
about them. -/
theorem pattern_entry (options : CompileOptions) {before after : List String} {source : String}
    {body : List Char}
    (noPattern : ∀ rules ∈ before ++ after, ∀ token ∈ Declaration.textTokens rules,
      Clause.isPattern token = false)
    (delimited : source.toList = '/' :: (body ++ ['/'])) :
    let original := Declaration.list ((before ++ after).map .text)
    let longer := Declaration.list ((before ++ ("regex:" ++ source) :: after).map .text)
    let pieces := (Declaration.textTokens source).tail
    ((∀ piece ∈ pieces, Clause.ofToken? .absent piece = none) →
        Constraints.ofTokens longer longer.tokens =
          { Constraints.ofTokens original original.tokens with pattern := some source }) ∧
      (TypeSilent options source →
        resolveType options longer.tokens = resolveType options original.tokens) ∧
      ((∀ piece ∈ pieces, Enumeration.tokenValues? piece = none) →
        Enumeration.choices? longer longer.tokens =
          Enumeration.choices? original original.tokens) := by
  intro original longer pieces
  have originalTokens : original.tokens =
      before.flatMap Declaration.textTokens ++ after.flatMap Declaration.textTokens :=
    (Declaration.tokens_ofTexts (before ++ after)).trans List.flatMap_append
  refine ⟨fun noClause => ?_, fun silent => ?_, fun noValues => ?_⟩
  · have entry := Constraints.ofTokens_entry noPattern delimited fun piece member =>
      Clause.isPattern_of_silent (noClause piece member)
    have others : ∀ token ∈ original.tokens, Clause.isPattern token = false := by
      rw [originalTokens, ← List.flatMap_append, List.forall_mem_flatMap]
      exact noPattern
    refine entry.trans ?_
    rw [Constraints.ofTokens_of_others others, originalTokens, Constraints.ofTokens,
      filterMap_silent noClause]
    rfl
  · refine (resolveType_entry before after delimited silent.notDynamic silent.noClass).trans ?_
    rw [originalTokens, resolveType, filterMap_silent silent.noType]
    rfl
  · refine (Enumeration.choices?_entry before after source).trans ?_
    have noObjects : original.objects = [] := Declaration.objects_ofTexts (before ++ after)
    rw [originalTokens, Enumeration.choices?, Enumeration.choices?, filterMap_silent noValues,
      noObjects]
    rfl

/-- The choice between two animals in a pattern is no rule. -/
theorem pattern_entry_animal :
    let original := Declaration.list [.text "required", .text "string|max:3"]
    let longer :=
      Declaration.list [.text "required", .text "regex:/^(Cat|Dog)$/", .text "string|max:3"]
    Constraints.ofTokens longer longer.tokens =
        { Constraints.ofTokens original original.tokens with pattern := some "/^(Cat|Dog)$/" } ∧
      resolveType {} longer.tokens = resolveType {} original.tokens ∧
      Enumeration.choices? longer longer.tokens = Enumeration.choices? original original.tokens := by
  have noPattern : ∀ rules ∈ ["required"] ++ ["string|max:3"],
      ∀ token ∈ Declaration.textTokens rules, Clause.isPattern token = false := by decide
  have delimited : "/^(Cat|Dog)$/".toList = '/' :: ("^(Cat|Dog)$".toList ++ ['/']) := by decide
  obtain ⟨constraints, type, choices⟩ := pattern_entry {} noPattern delimited
  exact ⟨constraints (by decide), type ⟨by decide, by decide, by decide⟩, choices (by decide)⟩

/-- A name of a rule between the pipes of a pattern is taken for the rule. -/
theorem pattern_entry_requires :
    let original := Declaration.list [.text "string"]
    let longer := Declaration.list [.text "string", .text "regex:/a|required|b/"]
    (Constraints.ofTokens original original.tokens).required = false ∧
      (Constraints.ofTokens longer longer.tokens).required = true ∧
      Constraints.ofTokens longer longer.tokens ≠
        { Constraints.ofTokens original original.tokens with pattern := some "/a|required|b/" } := by
  decide +kernel

end Formwork
