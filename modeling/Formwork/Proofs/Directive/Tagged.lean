/-
This file shows what a line says behind its first tag, and that the lines of a text are read one by
one.
-/

import Formwork.Proofs.Directive.Line

namespace Formwork

namespace Directive

/-- Tags begin with a text that is empty or a word. -/
def HasWordPrefix (options : CompileOptions) : Prop :=
  ∀ c ∈ options.directivePrefix.toList, Text.isWordChar c = true

instance : DecidablePred HasWordPrefix :=
  fun options => List.decidableBAll (Text.isWordChar · = true) options.directivePrefix.toList

variable {options : CompileOptions}

/-! Tags. -/

/-- What stands between the sign and the name of a tag. -/
def tagPrefix (options : CompileOptions) : List Char :=
  let beginning := options.directivePrefix.toList
  if beginning.isEmpty then [] else beginning ++ ['-']

theorem tag_eq (options : CompileOptions) (name : String) :
    tag options name = '@' :: (tagPrefix options ++ name.toList) :=
  rfl

/-- A tag is of word characters and hyphens, but for its sign. -/
theorem not_mem_tagBody (wordPrefix : HasWordPrefix options) {c : Char}
    (noWordChar : Text.isWordChar c = false) (noHyphen : c ≠ '-') (kind : Kind) :
    c ∉ tagPrefix options ++ kind.tagName.toList := by
  have names : ∀ kind : Kind, ∀ d ∈ kind.tagName.toList, Text.isWordChar d = true := by
    intro kind
    cases kind <;> exact List.all_eq_true.mp rfl
  have noWord {cs : List Char} (isWord : ∀ d ∈ cs, Text.isWordChar d = true) : c ∉ cs := by
    intro member
    rw [isWord c member] at noWordChar
    cases noWordChar
  rw [List.mem_append, not_or, tagPrefix]
  refine ⟨?_, noWord (names kind)⟩
  split
  · exact List.not_mem_nil
  · rw [List.mem_append, not_or, List.mem_singleton]
    exact ⟨noWord wordPrefix, noHyphen⟩

theorem oneLine_tag (wordPrefix : HasWordPrefix options) (kind : Kind) :
    '\n' ∉ tag options kind.tagName := by
  rw [tag_eq, List.mem_cons, not_or]
  exact ⟨by decide, not_mem_tagBody wordPrefix (by decide) (by decide) kind⟩

/-- The tag of a kind does not begin the tag of another kind. -/
theorem isPrefixOf?_tag (kind other : Kind) (rest : List Char) :
    (tag options other.tagName).isPrefixOf? (tag options kind.tagName ++ rest) =
      if other = kind then some rest else none := by
  split
  · rename_i same
    rw [same, List.isPrefixOf?_eq_some_iff_append_eq]
  · rename_i differ
    refine Text.isPrefixOf?_eq_none (Bool.eq_false_iff.mpr fun begins => differ ?_)
    rw [List.isPrefixOf_iff_prefix, tag_eq, tag_eq, List.cons_append, List.cons_prefix_cons,
      List.append_assoc, List.prefix_append_right_inj] at begins
    -- The names differ in their first letter.
    cases other <;> cases kind <;> simp_all [Kind.tagName]

/-- Behind a decoration stands the directive of the tag, or else what stands behind the tag. -/
theorem find?_tagged (wordPrefix : HasWordPrefix options) {decoration : List Char}
    (bare : '@' ∉ decoration) (kind other : Kind) (rest : List Char) :
    other.find? options (decoration ++ (tag options kind.tagName ++ rest)) =
      (if other = kind then kind.content? rest else none).or (other.find? options rest) := by
  have noSign : '@' ∉ tagPrefix options ++ kind.tagName.toList :=
    not_mem_tagBody wordPrefix (by decide) (by decide) kind
  have here : (if other = kind then some rest else none).bind other.content? =
      if other = kind then kind.content? rest else none := by
    split
    · rename_i same
      rw [same, Option.bind_some]
    · rfl
  have behind : findTagged? (tag options other.tagName) other.content?
      (tag options kind.tagName ++ rest).tail = other.find? options rest := by
    rw [tag_eq options kind.tagName, List.cons_append, List.tail_cons]
    exact findTagged?_bare noSign rest
  rw [← here, ← behind, ← isPrefixOf?_tag, ← findTagged?_eq (tag_ne_nil _)]
  exact findTagged?_bare bare _

theorem find?_bare {rest : List Char} (bare : '@' ∉ rest) (kind : Kind) :
    kind.find? options rest = none := by
  have nothing : kind.find? options (rest ++ []) = kind.find? options [] := findTagged?_bare bare []
  rwa [List.append_nil] at nothing

/-! White space at the end of a line. -/

section Padded

variable {after : List Char} (blank : ∀ c ∈ after, Text.isBlank c = true)
include blank

theorem word?_padded {isPart : Char → Bool} (visible : IsVisible isPart) (cs : List Char) :
    word? isPart (cs ++ after) =
      (word? isPart cs).map fun (word, rest) => (word, rest ++ after) := by
  have stops : ∀ c ∈ after.head?, isPart c = false := fun c isFirst => by
    refine Bool.eq_false_iff.mpr fun part => ?_
    have isBlank := blank c (List.mem_of_mem_head? isFirst)
    rw [visible c part] at isBlank
    cases isBlank
  obtain ⟨taken, dropped⟩ : after.takeWhile isPart = [] ∧ after.dropWhile isPart = after :=
    Text.takeWhile_word (List.forall_mem_nil _) stops
  have word : (cs ++ after).takeWhile isPart = cs.takeWhile isPart := by
    rw [List.takeWhile_append, taken, List.append_nil]
    split
    · rename_i all
      exact (List.takeWhile_prefix isPart).eq_of_length all |>.symm
    · rfl
  have rest : (cs ++ after).dropWhile isPart = cs.dropWhile isPart ++ after := by
    rw [List.dropWhile_append, dropped]
    split
    · rename_i none
      rw [List.isEmpty_iff.mp none, List.nil_append]
    · rfl
  rw [word?, word?, word, rest]
  cases cs.takeWhile isPart <;> rfl

theorem nextWord?_padded {isPart : Char → Bool} (visible : IsVisible isPart) (cs : List Char) :
    nextWord? isPart (cs ++ after) =
      (nextWord? isPart cs).map fun (word, rest) => (word, rest ++ after) := by
  cases cs with
  | nil =>
      cases after with
      | nil => rfl
      | cons c after =>
          rw [List.forall_mem_cons] at blank
          rw [List.nil_append, nextWord?, afterBlank?, if_pos blank.1, Option.bind_some,
            Text.trimStart_eq_nil blank.2]
          rfl
  | cons c cs =>
      rw [List.cons_append, nextWord?, nextWord?, afterBlank?, afterBlank?]
      split
      · rw [Option.bind_some, Option.bind_some, ← word?_padded blank visible]
        by_cases allBlank : Text.trimStart cs = []
        · rw [Text.trimStart_append_of_nil allBlank, Text.trimStart_eq_nil blank, allBlank,
            word?_padded blank visible]
          rfl
        · rw [Text.trimStart_append allBlank]
      · rfl

theorem parameter?_padded (cs : List Char) : parameter? (cs ++ after) = parameter? cs := by
  rw [parameter?, parameter?, nextWord?_padded blank isVisible_isWordChar]
  cases nextWord? Text.isWordChar cs with
  | none => rfl
  | some found =>
      obtain ⟨type, rest⟩ := found
      simp only [Option.map_some, Option.bind_eq_bind, Option.bind_some,
        nextWord?_padded blank isVisible_isKeyChar]
      cases nextWord? isKeyChar rest with
      | none => rfl
      | some found => simp only [Option.map_some, Option.bind_some, Text.trim_padded blank]

theorem content?_padded (kind : Kind) (cs : List Char) :
    kind.content? (cs ++ after) = kind.content? cs := by
  cases kind with
  | body => rw [Kind.content?, Kind.content?, parameter?_padded blank]
  | query => rw [Kind.content?, Kind.content?, parameter?_padded blank]
  | response =>
      rw [Kind.content?, Kind.content?, response?, response?,
        nextWord?_padded blank isVisible_isDecimal]
      cases nextWord? Text.isDecimal cs with
      | none => rfl
      | some found =>
          simp only [Option.map_some, Option.bind_eq_bind, Option.bind_some,
            parameter?_padded blank]
  | header =>
      rw [Kind.content?, Kind.content?, header?, header?,
        nextWord?_padded blank isVisible_isHeaderChar]
      cases nextWord? isHeaderChar cs with
      | none => rfl
      | some found =>
          simp only [Option.map_some, Option.bind_eq_bind, Option.bind_some,
            Text.trim_padded blank]

omit blank in
theorem isPrefixOf?_padded {tag : List Char} (apart : ∀ c ∈ tag, c ∉ after) (cs : List Char) :
    tag.isPrefixOf? (cs ++ after) = (tag.isPrefixOf? cs).map (· ++ after) := by
  induction tag generalizing cs with
  | nil => rfl
  | cons c tag inductionHypothesis =>
      rw [List.forall_mem_cons] at apart
      cases cs with
      | nil =>
          refine Text.isPrefixOf?_eq_none (Bool.eq_false_iff.mpr fun begins => apart.1 ?_)
          rw [List.isPrefixOf_iff_prefix] at begins
          exact begins.subset List.mem_cons_self
      | cons d cs =>
          rw [List.cons_append, List.isPrefixOf?, List.isPrefixOf?]
          split
          · exact inductionHypothesis apart.2 cs
          · rfl

theorem not_mem_padding (wordPrefix : HasWordPrefix options) (kind : Kind) :
    ∀ c ∈ tag options kind.tagName, c ∉ after := by
  intro c member inPadding
  have isBlank := blank c inPadding
  have noWordChar : Text.isWordChar c = false := by
    refine Bool.eq_false_iff.mpr fun isWord => ?_
    rw [isVisible_isWordChar c isWord] at isBlank
    cases isBlank
  have noHyphen : c ≠ '-' := by
    rintro rfl
    cases isBlank
  rw [tag_eq, List.mem_cons] at member
  rcases member with rfl | inBody
  · cases isBlank
  · exact not_mem_tagBody wordPrefix noWordChar noHyphen kind inBody

theorem find?_padded (wordPrefix : HasWordPrefix options) (kind : Kind) (line : List Char) :
    kind.find? options (line ++ after) = kind.find? options line := by
  have apart := not_mem_padding blank wordPrefix kind
  induction line with
  | nil => exact find?_bare (apart '@' List.mem_cons_self) kind
  | cons c line inductionHypothesis =>
      rw [Kind.find?, Kind.find?, findTagged?_eq (tag_ne_nil _), isPrefixOf?_padded apart,
        findTagged?_eq (tag_ne_nil _) (c :: line), List.cons_append, List.tail_cons, List.tail_cons,
        Option.bind_map]
      rw [Kind.find?, Kind.find?] at inductionHypothesis
      rw [inductionHypothesis]
      congr 2
      exact funext fun rest => content?_padded blank kind rest

theorem ofLine?_padded (wordPrefix : HasWordPrefix options) (line : List Char) :
    ofLine? options (line ++ after) = ofLine? options line := by
  rw [ofLine?_eq, ofLine?_eq]
  simp only [find?_padded blank wordPrefix]

end Padded

/-! The lines of a text. -/

theorem ignoresReturn_ofLine? (wordPrefix : HasWordPrefix options) :
    Text.IgnoresReturn (ofLine? options) where
  empty := rfl
  concat := ofLine?_padded (List.forall_mem_singleton.mpr rfl) wordPrefix

end Directive

/-- Text of these lines is read line by line. -/
theorem Directives.ofText_joined [PatternEngine] {options : CompileOptions}
    (wordPrefix : Directive.HasWordPrefix options) {lines : List (List Char)}
    (oneLine : ∀ line ∈ lines, '\n' ∉ line) :
    Directives.ofText options (String.ofList (['\n'].intercalate lines)) =
      if Directives.compiles options then
        (lines.filterMap (Directive.ofLine? options)).foldl Directives.add {}
      else {} := by
  rw [Directives.ofText, String.toList_ofList,
    (Directive.ignoresReturn_ofLine? wordPrefix).filterMap_joined oneLine]

end Formwork
