/-
This file shows what a single rule with a parameter tells about the type: the stronger of what its
name tells and what the end of its parameter tells. Nothing else of the parameter matters.
-/

import Formwork.Proofs.Resolve.Tier
import Formwork.Proofs.Text.Lowercase
import Mathlib.Data.List.TakeWhile

namespace Formwork

/-! Names and parameters in lower case. -/

theorem Text.isBlank_colon : Text.isBlank ':' = false := by decide

/-- Only a colon is a colon in lower case. -/
theorem Text.not_mem_lowercaseBetween_colon {reversedBefore after cs : List Char}
    (free : ':' ∉ cs) : ':' ∉ lowercaseBetween reversedBefore after cs :=
  not_mem_lowercaseBetween (by decide) (by decide +kernel) free _ _

/-- No capital sigma is left in lower case. -/
theorem Text.not_mem_lowercase_sigma (cs : List Char) : 'Σ' ∉ lowercase cs := by
  intro member
  rw [lowercase, ← lowercaseBetween_nil] at member
  rcases mem_lowercaseBetween member with isSigma | isFinal | ⟨c, -, written⟩
  · exact absurd isSigma (by decide)
  · exact absurd isFinal (by decide)
  · rw [← eq_of_mem_lowerChar written (by decide +kernel)] at written
    exact absurd written (by decide +kernel)

theorem Text.beforeFirst_append {separator : Char} {cs : List Char} (free : separator ∉ cs)
    (rest : List Char) : beforeFirst separator (cs ++ separator :: rest) = cs := by
  rw [beforeFirst, List.takeWhile_append_of_pos, List.takeWhile_cons_of_neg, List.append_nil]
  · simp
  · intro c member
    rw [bne_iff_ne]
    exact fun same => free (same ▸ member)

theorem suffix_append_cons_iff {α : Type} {separator : α} {ending : List α}
    (free : separator ∉ ending) (before after : List α) :
    ending <:+ before ++ separator :: after ↔ ending <:+ after := by
  constructor
  · intro ends
    rcases List.suffix_or_suffix_of_suffix ends (List.suffix_append before _) with inside | beyond
    · rcases List.suffix_cons_iff.mp inside with rfl | ends
      · exact absurd List.mem_cons_self free
      · exact ends
    · exact absurd (beyond.mem List.mem_cons_self) free
  · exact fun ends => (ends.trans (List.suffix_cons _ _)).trans (List.suffix_append _ _)

/-- The lower case of a rule's name in front of its parameter. -/
def writtenName (name parameter : String) : String :=
  String.ofList (Text.lowercaseBetween [] (':' :: Text.trimEnd parameter.toList)
    (Text.trimStart name.toList))

/-- Only a sigma could be written with regard to the parameter. -/
theorem writtenName_eq {name : String} (noSigma : 'Σ' ∉ name.toList) (parameter : String) :
    writtenName name parameter =
      String.ofList ((Text.trimStart name.toList).flatMap Text.lowerChar) := by
  rw [writtenName, Text.lowercaseBetween_of_not_mem]
  exact fun member => noSigma ((List.dropWhile_suffix _).mem member)

/-- A token with a parameter in lower case. -/
theorem lowercase_parameter (name parameter : String) :
    ∃ before, Text.lowercase (Text.trim (name ++ ":" ++ parameter).toList) =
      (writtenName name parameter).toList ++
        ':' :: Text.lowercaseAfter before (Text.trimEnd parameter.toList) := by
  have separated : (name ++ ":" ++ parameter).toList = name.toList ++ ':' :: parameter.toList := by
    rw [String.toList_append, String.toList_append, List.append_assoc]
    rfl
  rw [separated, Text.trim_separated Text.isBlank_colon, Text.lowercase, Text.lowercaseAfter_append,
    writtenName, String.toList_ofList]
  exact ⟨_, rfl⟩

/-! What names and parameters tell. -/

/-- The rules with parameters that make a field a file. -/
def fileParameterRules : List String :=
  ["mimes", "mimetypes", "extensions", "dimensions"]

def dateParameterRules : List String :=
  ["date_format", "before", "after"]

/-- What a native rule or a format of its own tells, with or without a parameter. -/
def formatResolution? (options : CompileOptions) (name : String) : Option TypeResolution :=
  match FieldType.nativeRules.find? name with
  | some type => some ⟨type, .native⟩
  | none => if options.isDynamicType name then some ⟨.other name, .dynamicFormat⟩ else none

/-- What the name of a rule with a parameter tells. -/
def nameResolution (options : CompileOptions) (name : String) : TypeResolution :=
  if fileParameterRules.contains name then ⟨.file, .file⟩
  else
    match formatResolution? options name with
    | some told => told
    | none => if dateParameterRules.contains name then ⟨.date, .dateRange⟩ else .fallback

/-- The end of a parameter in lower case, which may be that of a class name. -/
def parameterEnd (parameter : String) : List Char :=
  Text.lowercase (Text.trimEnd parameter.toList)

/-- What the end of a parameter tells. -/
def endingResolution (parameter : String) : TypeResolution :=
  if endsWithAny fileEndings (parameterEnd parameter) then ⟨.file, .file⟩
  else if endsWithAny ["\\password"] (parameterEnd parameter) then ⟨.password, .classSuffix⟩
  else if endsWithAny ["\\email"] (parameterEnd parameter) then ⟨.email, .classSuffix⟩
  else .fallback

theorem begins_parameter_iff {name : String} (free : ':' ∉ name.toList) {written : List Char}
    (isName : ':' ∉ written) (rest : List Char) :
    (name ++ ":").toList <+: written ++ ':' :: rest ↔ String.ofList written = name := by
  have separated : (name ++ ":").toList = name.toList ++ [':'] := String.toList_append
  rw [separated]
  constructor
  · rintro ⟨others, whole⟩
    have sameName := Text.beforeFirst_append free others
    rw [List.append_assoc, List.singleton_append] at whole
    rw [whole, Text.beforeFirst_append isName] at sameName
    rw [sameName, String.ofList_toList]
  · rintro rfl
    rw [String.toList_ofList]
    exact (List.prefix_append_right_inj _).mpr ⟨rest, rfl⟩

theorem beginsWithAny_parameter (names : List String) (free : ∀ name ∈ names, ':' ∉ name.toList)
    {written : List Char} (isName : ':' ∉ written) (rest : List Char) :
    beginsWithAny (names.map (· ++ ":")) (written ++ ':' :: rest) =
      names.contains (String.ofList written) := by
  rw [beginsWithAny, List.any_map, List.contains_eq_any_beq, Bool.eq_iff_iff, List.any_eq_true,
    List.any_eq_true]
  refine exists_congr fun name => and_congr_right fun member => ?_
  rw [Function.comp_apply, List.isPrefixOf_iff_prefix, beq_iff_eq]
  exact begins_parameter_iff (free name member) isName rest

theorem endsWithAny_parameter (endings : List String)
    (free : ∀ ending ∈ endings,
      ':' ∉ ending.toList ∧ 'σ' ∉ ending.toList ∧ 'ς' ∉ ending.toList)
    (written before cs : List Char) :
    endsWithAny endings (written ++ ':' :: Text.lowercaseAfter before cs) =
      endsWithAny endings (Text.lowercase cs) := by
  rw [endsWithAny, endsWithAny, Bool.eq_iff_iff, List.any_eq_true, List.any_eq_true]
  refine exists_congr fun ending => and_congr_right fun member => ?_
  obtain ⟨noColon, noSigma⟩ := free ending member
  rw [List.isSuffixOf_iff_suffix, List.isSuffixOf_iff_suffix, suffix_append_cons_iff noColon,
    Text.suffix_lowercaseAfter noSigma]

theorem fileRules_parameter (written rest : List Char) :
    fileRules.contains (String.ofList (written ++ ':' :: rest)) = false := by
  have free : ∀ name ∈ fileRules, ':' ∉ name.toList := by decide
  rw [List.contains_eq_mem, decide_eq_false_iff_not]
  intro member
  refine free _ member ?_
  rw [String.toList_ofList]
  exact List.mem_append_right _ List.mem_cons_self

/-- The tests of a token with a parameter look at its name and at the end of its parameter. -/
theorem classify?_parameter (options : CompileOptions) {name : String} (isName : ':' ∉ name.toList)
    (before : List Char) (parameter : String) :
    (classify? options
        (name.toList ++ ':' :: Text.lowercaseAfter before (Text.trimEnd parameter.toList))).getD
        .fallback =
      (nameResolution options name).join (endingResolution parameter) := by
  have files := beginsWithAny_parameter fileParameterRules (by decide) isName
  have dates := beginsWithAny_parameter dateParameterRules (by decide) isName
  have named : ∀ rest, ruleName (name.toList ++ ':' :: rest) = name := fun rest => by
    rw [ruleName, Text.beforeFirst_append isName, String.ofList_toList]
  have fileEnd := endsWithAny_parameter fileEndings (by decide) name.toList
  have passwordEnd := endsWithAny_parameter ["\\password"] (by decide) name.toList
  have emailEnd := endsWithAny_parameter ["\\email"] (by decide) name.toList
  rw [String.ofList_toList] at files dates
  rw [classify?, isFileIndicator, fileRules_parameter, Bool.false_or,
    show fileBeginnings = fileParameterRules.map (· ++ ":") by decide, files, fileEnd, named,
    show dateBeginnings = dateParameterRules.map (· ++ ":") by decide, dates, passwordEnd, emailEnd,
    nameResolution, formatResolution?, endingResolution, parameterEnd]
  -- what is left are the results of the tests on either side
  generalize fileParameterRules.contains name = isFileRule,
    endsWithAny fileEndings _ = endsLikeFile, FieldType.nativeRules.find? name = native,
    options.isDynamicType name = isDynamic, dateParameterRules.contains name = isDateRule,
    endsWithAny ["\\password"] _ = endsLikePassword, endsWithAny ["\\email"] _ = endsLikeEmail
  cases isFileRule <;> cases endsLikeFile <;> cases native <;> cases isDynamic <;>
    cases isDateRule <;> cases endsLikePassword <;> cases endsLikeEmail <;> rfl

/-- A rule with a parameter tells the stronger of what its name and the end of the parameter tell. -/
theorem resolveType_parameter (options : CompileOptions) {name : String}
    (unparametrized : ':' ∉ name.toList) (parameter : String) :
    resolveType options [name ++ ":" ++ parameter] =
      (nameResolution options (writtenName name parameter)).join (endingResolution parameter) := by
  obtain ⟨before, written⟩ := lowercase_parameter name parameter
  have isName : ':' ∉ (writtenName name parameter).toList := by
    rw [writtenName, String.toList_ofList]
    exact Text.not_mem_lowercaseBetween_colon fun member =>
      unparametrized ((List.dropWhile_suffix _).mem member)
  rw [resolveType_singleton, ← classify?_parameter options isName before parameter, ← written,
    tokenResolution?]
  split
  · rename_i blank
    rw [written] at blank
    exact absurd blank (List.append_ne_nil_of_right_ne_nil _ (List.cons_ne_nil _ _))
  · rfl

/-! Formats, which tell the same with a parameter and alone. -/

/-- Whether a parameter ends like the class name of a file rule. -/
def endsLikeFile (parameter : String) : Bool :=
  endsWithAny fileEndings (parameterEnd parameter)

theorem endingResolution_eq_file_iff {parameter : String} :
    endingResolution parameter = ⟨.file, .file⟩ ↔ endsLikeFile parameter = true := by
  rw [endingResolution, endsLikeFile]
  split
  · exact iff_of_true rfl ‹_›
  · refine iff_of_false ?_ ‹_›
    split
    · nofun
    split <;> nofun

theorem rank_endingResolution {parameter : String} (other : endsLikeFile parameter = false) :
    TypeTier.classSuffix.rank ≤ (endingResolution parameter).tier.rank := by
  rw [endsLikeFile] at other
  rw [endingResolution, other, if_neg Bool.false_ne_true]
  split
  · decide
  split <;> decide

theorem rank_of_formatResolution? {options : CompileOptions} {name : String} {told : TypeResolution}
    (isFormat : formatResolution? options name = some told) :
    TypeTier.file.rank < told.tier.rank ∧ told.tier.rank ≤ TypeTier.classSuffix.rank := by
  rw [formatResolution?] at isFormat
  split at isFormat
  · cases isFormat
    exact (by decide : TypeTier.file.rank < TypeTier.native.rank ∧
      TypeTier.native.rank ≤ TypeTier.classSuffix.rank)
  split at isFormat
  · cases isFormat
    exact (by decide : TypeTier.file.rank < TypeTier.dynamicFormat.rank ∧
      TypeTier.dynamicFormat.rank ≤ TypeTier.classSuffix.rank)
  · cases isFormat

theorem exists_formatResolution? {options : CompileOptions} {name : String}
    (dynamic : options.isDynamicType name = true) :
    ∃ told, formatResolution? options name = some told := by
  cases native : FieldType.nativeRules.find? name with
  | some type => exact ⟨⟨type, .native⟩, by rw [formatResolution?, native]⟩
  | none =>
      refine ⟨⟨.other name, .dynamicFormat⟩, ?_⟩
      rw [formatResolution?, native, dynamic]
      rfl

/-- A rule that is named as written: visible, in lower case and without white space around it. -/
structure PlainName (name : String) : Prop where
  visible : name ≠ ""
  trimmed : Text.trim name.toList = name.toList
  lower : Text.lowercase name.toList = name.toList
  unparametrized : ':' ∉ name.toList

instance (name : String) : Decidable (PlainName name) :=
  decidable_of_iff
    (name ≠ "" ∧ Text.trim name.toList = name.toList ∧
      Text.lowercase name.toList = name.toList ∧ ':' ∉ name.toList)
    ⟨fun ⟨visible, trimmed, lower, free⟩ => ⟨visible, trimmed, lower, free⟩,
      fun ⟨visible, trimmed, lower, free⟩ => ⟨visible, trimmed, lower, free⟩⟩

namespace PlainName

variable {options : CompileOptions} {name : String} (plain : PlainName name)
include plain

theorem writtenName_eq_self (parameter : String) : writtenName name parameter = name := by
  have noSigma : 'Σ' ∉ name.toList := plain.lower ▸ Text.not_mem_lowercase_sigma name.toList
  have alone : Text.lowercase name.toList = name.toList.flatMap Text.lowerChar := by
    rw [Text.lowercase, ← Text.lowercaseBetween_nil, Text.lowercaseBetween_of_not_mem noSigma]
  have started : Text.trimStart name.toList = name.toList :=
    Text.trimStart_eq_self (plain.trimmed ▸ Text.isBlank_head?_trim name.toList)
  rw [writtenName_eq noSigma, started, ← alone, plain.lower, String.ofList_toList]

theorem ruleName_eq : ruleName name.toList = name := by
  rw [ruleName, Text.beforeFirst, List.takeWhile_eq_self_iff.mpr, String.ofList_toList]
  intro c member
  rw [bne_iff_ne]
  exact fun same => plain.unparametrized (same ▸ member)

variable {told : TypeResolution} (isFormat : formatResolution? options name = some told)
include isFormat

/-- A format alone tells itself, if it is no file indicator. -/
theorem resolveType_alone :
    resolveType options [name] =
      if isFileIndicator name.toList then ⟨.file, .file⟩ else told := by
  have nonempty : name.toList ≠ [] := fun empty => plain.visible (String.toList_eq_nil_iff.mp empty)
  rw [resolveType_singleton, tokenResolution?, plain.trimmed, plain.lower]
  split
  · exact absurd ‹_› nonempty
  rw [classify?, plain.ruleName_eq]
  rw [formatResolution?] at isFormat
  split
  · rfl
  cases native : FieldType.nativeRules.find? name with
  | some type =>
      rw [native] at isFormat
      exact Option.some.inj isFormat
  | none =>
      rw [native] at isFormat
      dsimp only at isFormat ⊢
      split at isFormat
      · rename_i dynamic
        rw [if_pos dynamic]
        exact Option.some.inj isFormat
      · cases isFormat

/-- A format with a parameter tells itself, if neither of the two stands for a file. -/
theorem resolveType_format (parameter : String) :
    resolveType options [name ++ ":" ++ parameter] =
      if fileParameterRules.contains name || endsLikeFile parameter then ⟨.file, .file⟩
      else told := by
  obtain ⟨notFile, stronger⟩ := rank_of_formatResolution? isFormat
  rw [resolveType_parameter options plain.unparametrized, plain.writtenName_eq_self, nameResolution,
    isFormat]
  cases fileParameterRules.contains name with
  | true => exact TypeResolution.join_eq_left (Nat.zero_le _)
  | false =>
      cases ends : endsLikeFile parameter with
      | true =>
          rw [endingResolution_eq_file_iff.mpr ends]
          exact TypeResolution.join_eq_right notFile
      | false =>
          exact TypeResolution.join_eq_left
            (Nat.le_trans stronger (rank_endingResolution ends))

/-- A format tells the same with a parameter and alone if both stand for a file or neither does. -/
theorem resolveType_format_iff (parameter : String) :
    resolveType options [name ++ ":" ++ parameter] = resolveType options [name] ↔
      (isFileIndicator name.toList = true ↔
        name ∈ fileParameterRules ∨ endsLikeFile parameter = true) := by
  have notFile : told ≠ ⟨.file, .file⟩ := fun isFile => by
    have positive := (rank_of_formatResolution? isFormat).1
    rw [isFile] at positive
    exact Nat.lt_irrefl _ positive
  rw [plain.resolveType_format isFormat, plain.resolveType_alone isFormat,
    ← List.contains_iff_mem, ← Bool.or_eq_true]
  cases fileParameterRules.contains name || endsLikeFile parameter <;>
    cases isFileIndicator name.toList <;> simp [notFile, notFile.symm]

end PlainName

/-- The name of a file rule alone does not make a file of a field if a parameter follows it. -/
theorem nameResolution_fileRules (options : CompileOptions) :
    ∀ name ∈ fileRules, (nameResolution options name).tier ≠ .file := by
  have other : ∀ name ∈ fileRules, fileParameterRules.contains name = false := by decide
  intro name member isFile
  rw [nameResolution, other name member, if_neg Bool.false_ne_true] at isFile
  split at isFile
  · rename_i told isFormat
    have notFile := (rank_of_formatResolution? isFormat).1
    rw [isFile] at notFile
    exact Nat.lt_irrefl _ notFile
  split at isFile <;> cases isFile

theorem resolveType_fileRules_iff (options : CompileOptions) {name : String}
    (member : name ∈ fileRules) (parameter : String) :
    resolveType options [name ++ ":" ++ parameter] = resolveType options [name] ↔
      endsLikeFile parameter = true := by
  have plain : ∀ name ∈ fileRules, PlainName name := by decide
  have indicates : ∀ name ∈ fileRules,
      isFileIndicator (Text.lowercase (Text.trim name.toList)) = true := by decide
  have weaker := nameResolution_fileRules options name member
  rw [resolveType_of_isFileIndicator (List.mem_singleton_self name) (indicates name member),
    resolveType_parameter options (plain name member).unparametrized,
    (plain name member).writtenName_eq_self, ← endingResolution_eq_file_iff]
  exact TypeResolution.join_eq_file_iff weaker

theorem resolveType_nativeRules_iff (options : CompileOptions) {name : String}
    (member : name ∈ FieldType.nativeRules.names) (parameter : String) :
    resolveType options [name ++ ":" ++ parameter] = resolveType options [name] ↔
      endsLikeFile parameter = false := by
  have native : ∀ name ∈ FieldType.nativeRules.names, PlainName name ∧
      isFileIndicator name.toList = false ∧ name ∉ fileParameterRules ∧
      (FieldType.nativeRules.find? name).isSome = true := by decide
  obtain ⟨plain, notFile, noFileParameter, isSome⟩ := native name member
  obtain ⟨type, found⟩ := Option.isSome_iff_exists.mp isSome
  have isFormat : formatResolution? options name = some ⟨type, .native⟩ := by
    rw [formatResolution?, found]
  rw [plain.resolveType_format_iff isFormat, notFile]
  simp [noFileParameter]

/-- What a rule tells with a parameter. Two parameters of a name tell the same exactly if no end of
theirs is stronger than the name or both ends tell the same. A file rule tells the same with a
parameter only if that ends like a file class, and a native rule or format only if it does not. -/
theorem resolveType_parameter_iff (options : CompileOptions) :
    (∀ name parameter, ':' ∉ name.toList →
      resolveType options [name ++ ":" ++ parameter] =
        (nameResolution options (writtenName name parameter)).join (endingResolution parameter)) ∧
      (∀ name first second, ':' ∉ name.toList → 'Σ' ∉ name.toList →
        let told := nameResolution options (writtenName name first)
        (resolveType options [name ++ ":" ++ first] = resolveType options [name ++ ":" ++ second] ↔
          ((endingResolution first).tier.rank < told.tier.rank ∨
              (endingResolution second).tier.rank < told.tier.rank →
            endingResolution first = endingResolution second))) ∧
      (∀ name ∈ fileRules, ∀ parameter,
        resolveType options [name ++ ":" ++ parameter] = resolveType options [name] ↔
          endsLikeFile parameter = true) ∧
      (∀ name ∈ FieldType.nativeRules.names, ∀ parameter,
        resolveType options [name ++ ":" ++ parameter] = resolveType options [name] ↔
          endsLikeFile parameter = false) ∧
      (∀ name parameter, options.isDynamicType name = true → PlainName name →
        (resolveType options [name ++ ":" ++ parameter] = resolveType options [name] ↔
          (isFileIndicator name.toList = true ↔
            name ∈ fileParameterRules ∨ endsLikeFile parameter = true))) := by
  refine ⟨fun name parameter free => resolveType_parameter options free parameter, ?_,
    fun name member parameter => resolveType_fileRules_iff options member parameter,
    fun name member parameter => resolveType_nativeRules_iff options member parameter, ?_⟩
  · intro name first second free noSigma told
    have sameName : writtenName name second = writtenName name first := by
      rw [writtenName_eq noSigma, writtenName_eq noSigma]
    rw [resolveType_parameter options free, resolveType_parameter options free, sameName]
    exact TypeResolution.join_eq_join_iff
  · intro name parameter dynamic plain
    obtain ⟨told, isFormat⟩ := exists_formatResolution? dynamic
    exact plain.resolveType_format_iff isFormat parameter

/-- A table of users and a list of columns tell as little as each other, and a decimal number or a
format with a parameter is what it is without. -/
theorem resolveType_parameter_iff_exists :
    ':' ∉ "exists".toList ∧ 'Σ' ∉ "exists".toList ∧ "image" ∈ fileRules ∧
      "decimal" ∈ FieldType.nativeRules.names ∧ ({} : CompileOptions).isDynamicType "uuid" = true ∧
      PlainName "uuid" ∧
      resolveType {} ["exists:App\\Models\\User"] = resolveType {} ["exists:users,id"] ∧
      resolveType {} ["image:Rules\\Image"] = resolveType {} ["image"] ∧
      resolveType {} ["decimal:2,4"] = resolveType {} ["decimal"] ∧
      resolveType {} ["uuid:4"] = resolveType {} ["uuid"] := by
  have free : ':' ∉ "exists".toList ∧ 'Σ' ∉ "exists".toList := by decide
  have image : "image" ∈ fileRules := by decide
  have native : "decimal" ∈ FieldType.nativeRules.names := by decide
  have dynamic : ({} : CompileOptions).isDynamicType "uuid" = true := by decide
  have plain : PlainName "uuid" := by decide
  obtain ⟨-, parameters, files, natives, formats⟩ := resolveType_parameter_iff {}
  exact ⟨free.1, free.2, image, native, dynamic, plain,
    (parameters "exists" "App\\Models\\User" "users,id" free.1 free.2).mpr (by decide),
    (files "image" image "Rules\\Image").mpr (by decide),
    (natives "decimal" native "2,4").mpr (by decide),
    (formats "uuid" "4" dynamic plain).mpr (by decide)⟩

/-- The class behind a table makes a file of a field, and a parameter makes a text of an image. -/
theorem parameter_retypes :
    resolveType {} ["exists:App\\Models\\File"] ≠ resolveType {} ["exists:App\\Models\\User"] ∧
      resolveType {} ["exists:App\\Models\\File"] = ⟨.file, .file⟩ ∧
      resolveType {} ["exists:App\\Models\\User"] = ⟨.text, .fallback⟩ ∧
      resolveType {} ["image:allow_svg"] ≠ resolveType {} ["image"] ∧
      resolveType {} ["image:allow_svg"] = ⟨.text, .fallback⟩ := by
  decide +kernel

end Formwork
