/-
This file shows that directives are read again from the lines that they are written in.
-/

import Formwork.Proofs.Directive.Interleaved
import Formwork.Proofs.Directive.Tagged
import Formwork.SizedEngine

namespace Formwork

namespace Directive

/-! What is written. -/

/-- A description that ends with its line, and in which no directive begins. -/
def IsDescription (description : List Char) : Prop :=
  '@' ∉ description ∧ '\n' ∉ description ∧ Text.trim description = description

instance : DecidablePred IsDescription :=
  fun _ => inferInstanceAs (Decidable (_ ∧ _))

end Directive

/-- The type is a word in lower case. -/
def ManualParam.IsPlain (parameter : ManualParam) : Prop :=
  (Directive.IsWord Text.isWordChar parameter.type.toList ∧
    Text.lowercase parameter.type.toList = parameter.type.toList) ∧
  Directive.IsWord Directive.isKeyChar parameter.key.toList ∧
  Directive.IsDescription parameter.description.toList

instance : DecidablePred ManualParam.IsPlain :=
  fun _ => inferInstanceAs (Decidable (_ ∧ _))

def ManualHeader.IsPlain (header : ManualHeader) : Prop :=
  Directive.IsWord Directive.isHeaderChar header.key.toList ∧
  Directive.IsDescription header.description.toList

instance : DecidablePred ManualHeader.IsPlain :=
  fun _ => inferInstanceAs (Decidable (_ ∧ _))

namespace Directive

def IsPlain : Directive → Prop
  | body parameter => parameter.IsPlain
  | query parameter => parameter.IsPlain
  | response status parameter => IsWord Text.isDecimal status.toList ∧ parameter.IsPlain
  | header declared => declared.IsPlain

/-- What a directive has behind its tag, but for its description. -/
def fields : Directive → List (List Char)
  | body parameter => [parameter.type.toList, parameter.key.toList]
  | query parameter => [parameter.type.toList, parameter.key.toList]
  | response status parameter => [status.toList, parameter.type.toList, parameter.key.toList]
  | header declared => [declared.key.toList]

def description : Directive → List Char
  | body parameter => parameter.description.toList
  | query parameter => parameter.description.toList
  | response _ parameter => parameter.description.toList
  | header declared => declared.description.toList

/-- A single space before each of the parts. -/
def spaced (parts : List (List Char)) : List Char :=
  parts.flatMap (' ' :: ·)

/-- A description that is not empty. -/
def described (description : List Char) : List (List Char) :=
  if description = [] then [] else [description]

/-- A directive as it is written. -/
def written (options : CompileOptions) (directive : Directive) : List Char :=
  tag options directive.kind.tagName ++ spaced (directive.fields ++ described directive.description)

/-- A directive stands in the line alone, behind some decoration. White space may follow it. -/
def Written (options : CompileOptions) (directive : Directive) (line : List Char) : Prop :=
  ∃ decoration after,
    ('@' ∉ decoration ∧ '\n' ∉ decoration) ∧
    Text.IsSpacing after ∧
    line = decoration ++ (directive.written options ++ after)

/-- Lines that these directives are written in one by one, perhaps with other lines around them. -/
inductive Rendered (options : CompileOptions) : List Directive → List (List Char) → Prop where
  | nil : Rendered options [] []
  | directive {directive : Directive} {line : List Char} {others : List Directive}
      {lines : List (List Char)} (isWritten : Written options directive line)
      (rendered : Rendered options others lines) :
      Rendered options (directive :: others) (line :: lines)
  | other {line : List Char} {directives : List Directive} {lines : List (List Char)}
      (unmarked : '@' ∉ line) (oneLine : '\n' ∉ line) (rendered : Rendered options directives lines) :
      Rendered options directives (line :: lines)

/-! What is read. -/

theorem nextWord?_spaced {isPart : Char → Bool} (visible : IsVisible isPart) {word : List Char}
    (isWord : IsWord isPart word) (others : List (List Char)) :
    nextWord? isPart (spaced (word :: others)) = some (word, spaced others) := by
  have stops : ∀ c ∈ (spaced others).head?, isPart c = false := by
    intro c isFirst
    cases others with
    | nil => cases isFirst
    | cons other others =>
        cases isFirst
        refine Bool.eq_false_iff.mpr fun part => ?_
        cases visible ' ' part
  exact nextWord?_append visible (by decide : IsWord Text.isBlank [' ']) isWord stops

theorem trim_spaced_described {description : List Char}
    (trimmed : Text.trim description = description) :
    Text.trim (spaced (described description)) = description := by
  rw [described]
  split
  · rename_i empty
    rw [empty]
    rfl
  · have separated : spaced [description] = [' '] ++ description := List.flatMap_singleton _ _
    rw [separated, Text.trim, Text.trimStart_padded (List.forall_mem_singleton.mpr rfl),
      ← Text.trim, trimmed]

theorem parameter?_spaced {parameter : ManualParam} (plain : parameter.IsPlain) :
    parameter? (spaced (parameter.type.toList :: parameter.key.toList ::
      described parameter.description.toList)) = some parameter := by
  obtain ⟨⟨typeWord, lowercase⟩, keyWord, -, -, trimmed⟩ := plain
  simp only [parameter?, nextWord?_spaced isVisible_isWordChar typeWord,
    nextWord?_spaced isVisible_isKeyChar keyWord, trim_spaced_described trimmed, lowercase,
    Option.bind_eq_bind, Option.bind_some, String.ofList_toList]

theorem content?_spaced {directive : Directive} (plain : directive.IsPlain) :
    directive.kind.content? (spaced (directive.fields ++ described directive.description)) =
      some directive := by
  cases directive with
  | body parameter => exact congrArg (Option.map body) (parameter?_spaced plain)
  | query parameter => exact congrArg (Option.map query) (parameter?_spaced plain)
  | response status parameter =>
      obtain ⟨statusWord, plain⟩ := plain
      have read := parameter?_spaced plain
      simp only [kind, Kind.content?, response?, fields, description, List.cons_append,
        List.nil_append, nextWord?_spaced isVisible_isDecimal statusWord, Option.bind_eq_bind,
        Option.bind_some, read, Option.map_some, String.ofList_toList]
  | header declared =>
      obtain ⟨keyWord, -, -, trimmed⟩ := plain
      simp only [kind, Kind.content?, header?, fields, description, List.cons_append,
        List.nil_append, nextWord?_spaced isVisible_isHeaderChar keyWord, Option.bind_eq_bind,
        Option.bind_some, trim_spaced_described trimmed, String.ofList_toList]

theorem isWord_field {directive : Directive} (plain : directive.IsPlain) :
    ∀ field ∈ directive.fields, ∃ isPart ∈ directive.kind.words, IsWord isPart field := by
  cases directive with
  | body parameter => simp [fields, kind, Kind.words, plain.1.1, plain.2.1]
  | query parameter => simp [fields, kind, Kind.words, plain.1.1, plain.2.1]
  | response status parameter =>
      simp [fields, kind, Kind.words, plain.1, plain.2.1.1, plain.2.2.1]
  | header declared => simp [fields, kind, Kind.words, plain.1]

theorem isDescription_description {directive : Directive} (plain : directive.IsPlain) :
    IsDescription directive.description := by
  cases directive with
  | body parameter => exact plain.2.2
  | query parameter => exact plain.2.2
  | response status parameter => exact plain.2.2.2
  | header declared => exact plain.2

/-- Neither the sign of tags nor a line feed is written behind a tag. -/
theorem not_mem_spaced {directive : Directive} (plain : directive.IsPlain) {c : Char}
    (noPart : ∀ isPart ∈ directive.kind.words, isPart c = false) (noSpace : c ≠ ' ')
    (notDescribed : c ∉ directive.description) :
    c ∉ spaced (directive.fields ++ described directive.description) := by
  rw [spaced, List.mem_flatMap]
  rintro ⟨part, member, inPart⟩
  rcases List.mem_cons.mp inPart with isSpace | inPart
  · exact noSpace isSpace
  rcases List.mem_append.mp member with isField | isDescribed
  · obtain ⟨isPart, isKind, isWord⟩ := isWord_field plain part isField
    have differ := noPart isPart isKind
    rw [isWord.2 c inPart] at differ
    cases differ
  · rw [described] at isDescribed
    split at isDescribed
    · cases isDescribed
    · rw [List.mem_singleton.mp isDescribed] at inPart
      exact notDescribed inPart

theorem unmarked_spaced {directive : Directive} (plain : directive.IsPlain) :
    '@' ∉ spaced (directive.fields ++ described directive.description) := by
  refine not_mem_spaced plain ?_ (by decide) (isDescription_description plain).1
  cases directive.kind <;> simp only [Kind.words, List.forall_mem_cons] <;> decide

theorem oneLine_spaced {directive : Directive} (plain : directive.IsPlain) :
    '\n' ∉ spaced (directive.fields ++ described directive.description) := by
  refine not_mem_spaced plain ?_ (by decide) (isDescription_description plain).2.1
  cases directive.kind <;> simp only [Kind.words, List.forall_mem_cons] <;> decide

variable {options : CompileOptions}

theorem find?_written (wordPrefix : HasWordPrefix options) {directive : Directive}
    (plain : directive.IsPlain) {decoration : List Char} (unmarked : '@' ∉ decoration)
    (other : Kind) :
    other.find? options (decoration ++ directive.written options) =
      if other = directive.kind then some directive else none := by
  rw [written, find?_tagged wordPrefix unmarked, content?_spaced plain,
    find?_bare (unmarked_spaced plain), Option.or_none]

theorem ofLine?_written (wordPrefix : HasWordPrefix options) {directive : Directive}
    (plain : directive.IsPlain) {line : List Char} (isWritten : Written options directive line) :
    ofLine? options line = some directive := by
  obtain ⟨decoration, after, ⟨unmarked, -⟩, spacing, rfl⟩ := isWritten
  rw [← List.append_assoc, ofLine?_padded spacing.isBlank wordPrefix,
    ofLine?_eq_some_iff]
  refine ⟨directive.kind, ?_, fun other isEarlier => ?_⟩
  · rw [find?_written wordPrefix plain unmarked, if_pos rfl]
  · have differ : other ≠ directive.kind := by
      rintro rfl
      exact Kind.not_mem_earlier _ isEarlier
    rw [find?_written wordPrefix plain unmarked, if_neg differ]

theorem ofLine?_unmarked {line : List Char} (unmarked : '@' ∉ line) :
    ofLine? options line = none := by
  simp [ofLine?_eq, find?_bare unmarked]

/-- From such lines these directives are read, and no others. -/
theorem filterMap_rendered (wordPrefix : HasWordPrefix options) {directives : List Directive}
    {lines : List (List Char)} (rendered : Rendered options directives lines)
    (plain : ∀ directive ∈ directives, directive.IsPlain) :
    lines.filterMap (ofLine? options) = directives := by
  induction rendered with
  | nil => rfl
  | directive isWritten _ inductionHypothesis =>
      rw [List.forall_mem_cons] at plain
      rw [List.filterMap_cons_some (ofLine?_written wordPrefix plain.1 isWritten),
        inductionHypothesis plain.2]
  | other unmarked _ _ inductionHypothesis =>
      rw [List.filterMap_cons_none (ofLine?_unmarked unmarked), inductionHypothesis plain]

theorem oneLine_written (wordPrefix : HasWordPrefix options) {directive : Directive}
    (plain : directive.IsPlain) {line : List Char} (isWritten : Written options directive line) :
    '\n' ∉ line := by
  obtain ⟨decoration, after, ⟨-, oneLine⟩, spacing, rfl⟩ := isWritten
  simp only [written, List.mem_append, not_or]
  exact ⟨oneLine, ⟨oneLine_tag wordPrefix _, oneLine_spaced plain⟩, spacing.oneLine⟩

theorem oneLine_rendered (wordPrefix : HasWordPrefix options) {directives : List Directive}
    {lines : List (List Char)} (rendered : Rendered options directives lines)
    (plain : ∀ directive ∈ directives, directive.IsPlain) : ∀ line ∈ lines, '\n' ∉ line := by
  induction rendered with
  | nil => exact List.forall_mem_nil _
  | directive isWritten _ inductionHypothesis =>
      rw [List.forall_mem_cons] at plain
      exact List.forall_mem_cons.mpr
        ⟨oneLine_written wordPrefix plain.1 isWritten, inductionHypothesis plain.2⟩
  | other _ oneLine _ inductionHypothesis =>
      exact List.forall_mem_cons.mpr ⟨oneLine, inductionHypothesis plain⟩

end Directive

namespace Directives

/-- All of it can be written, and each status has a response. -/
structure IsPlain (directives : Directives) : Prop where
  body : ∀ parameter ∈ directives.body, parameter.IsPlain
  query : ∀ parameter ∈ directives.query, parameter.IsPlain
  headers : ∀ header ∈ directives.headers, header.IsPlain
  responses : ∀ entry ∈ directives.responses.entries,
    Directive.IsWord Text.isDecimal entry.1.toList ∧ entry.2 ≠ [] ∧
      ∀ parameter ∈ entry.2, parameter.IsPlain

instance : DecidablePred IsPlain := fun directives =>
  decidable_of_iff
    ((∀ parameter ∈ directives.body, parameter.IsPlain) ∧
      (∀ parameter ∈ directives.query, parameter.IsPlain) ∧
      (∀ header ∈ directives.headers, header.IsPlain) ∧
      ∀ entry ∈ directives.responses.entries,
        Directive.IsWord Text.isDecimal entry.1.toList ∧ entry.2 ≠ [] ∧
          ∀ parameter ∈ entry.2, parameter.IsPlain)
    ⟨fun ⟨body, query, headers, responses⟩ => ⟨body, query, headers, responses⟩,
      fun ⟨body, query, headers, responses⟩ => ⟨body, query, headers, responses⟩⟩

theorem IsPlain.isGrouped {directives : Directives} (plain : directives.IsPlain) :
    directives.IsGrouped := by
  intro status found
  obtain ⟨-, nonempty, -⟩ := plain.responses _ (SortedEntries.find?_eq_some_iff.mp found)
  exact nonempty rfl

theorem IsPlain.of_interleaved {directives : Directives} (plain : directives.IsPlain)
    {inOrder : List Directive} (interleaved : directives.Interleaved inOrder) :
    ∀ directive ∈ inOrder, directive.IsPlain := by
  intro directive member
  cases directive with
  | body parameter =>
      refine plain.body parameter ?_
      rw [← interleaved.body, List.mem_filterMap]
      exact ⟨_, member, rfl⟩
  | query parameter =>
      refine plain.query parameter ?_
      rw [← interleaved.query, List.mem_filterMap]
      exact ⟨_, member, rfl⟩
  | header declared =>
      refine plain.headers declared ?_
      rw [← interleaved.headers, List.mem_filterMap]
      exact ⟨_, member, rfl⟩
  | response status parameter =>
      have inGroup : parameter ∈ directives.group status := by
        rw [← interleaved.responses, List.mem_filterMap]
        exact ⟨_, member, if_pos rfl⟩
      rw [group] at inGroup
      cases found : directives.responses.find? status with
      | none =>
          rw [found] at inGroup
          cases inGroup
      | some parameters =>
          rw [found] at inGroup
          obtain ⟨statusWord, -, plain⟩ :=
            plain.responses _ (SortedEntries.find?_eq_some_iff.mp found)
          exact ⟨statusWord, plain parameter inGroup⟩

/-- Directives are read again from a text that they are written in, if their patterns compile. If one
does not, nothing is read. -/
theorem ofText_rendered [PatternEngine] {options : CompileOptions}
    (wordPrefix : Directive.HasWordPrefix options)
    {directives : Directives} (plain : directives.IsPlain) {inOrder : List Directive}
    (interleaved : directives.Interleaved inOrder) {lines : List (List Char)}
    (rendered : Directive.Rendered options inOrder lines) :
    ofText options (String.ofList (['\n'].intercalate lines)) =
      if compiles options then directives else {} := by
  have allPlain := plain.of_interleaved interleaved
  rw [ofText_joined wordPrefix (Directive.oneLine_rendered wordPrefix rendered allPlain),
    Directive.filterMap_rendered wordPrefix rendered allPlain,
    interleaved.foldl_add plain.isGrouped]

/-- Two responses with a query parameter between them. -/
theorem ofText_rendered_comment :
    let options : CompileOptions := { directivePrefix := "api" }
    let search : ManualParam := ⟨"string", "search", "Free text"⟩
    let id : ManualParam := ⟨"integer", "users.*.id", ""⟩
    let directives : Directives :=
      { query := [search], responses := SortedEntries.empty.put "200" [id, search] }
    let inOrder : List Directive := [.response "200" id, .query search, .response "200" search]
    let lines := [ "/**".toList, " * @api-responseParam 200 integer users.*.id ".toList,
      "/// @api-queryParam string search Free text".toList,
      "@api-responseParam 200 string search Free text".toList ]
    Directive.HasWordPrefix options ∧ directives.IsPlain ∧ directives.Interleaved inOrder ∧
      Directive.Rendered options inOrder lines ∧
      ofText options (String.ofList (['\n'].intercalate lines)) = directives := by
  intro options search id directives inOrder lines
  have wordPrefix : Directive.HasWordPrefix options := by decide
  have plain : directives.IsPlain := by decide
  have interleaved : directives.Interleaved inOrder := by
    refine ⟨rfl, rfl, rfl, fun status => ?_⟩
    by_cases same : "200" = status
    · subst same
      rfl
    · have nothing : inOrder.filterMap (Directive.inGroup? status) = [] := by
        simp [inOrder, List.filterMap_cons, Directive.inGroup?, same]
      rw [nothing, group, SortedEntries.find?_put, if_neg same]
      rfl
  have first : Directive.Written options (.response "200" id) lines[1] :=
    ⟨" * ".toList, " ".toList, by decide, by decide, by decide⟩
  have second : Directive.Written options (.query search) lines[2] :=
    ⟨"/// ".toList, [], by decide, by decide, by decide⟩
  have third : Directive.Written options (.response "200" search) lines[3] :=
    ⟨[], [], by decide, by decide, by decide⟩
  have rendered : Directive.Rendered options inOrder lines :=
    .other (by decide) (by decide)
      (.directive first (.directive second (.directive third .nil)))
  exact ⟨wordPrefix, plain, interleaved, rendered,
    (ofText_rendered wordPrefix plain interleaved rendered).trans (if_pos (by decide))⟩

/-- A prefix that is too long for the patterns to compile. -/
def longPrefixed : CompileOptions :=
  { directivePrefix := String.ofList (List.replicate 330000 'a') }

theorem utf8ByteSize_replicate (count : Nat) :
    (String.ofList (List.replicate count 'a')).utf8ByteSize = count := by
  induction count with
  | zero => rfl
  | succ count inductionHypothesis =>
      have single : (String.ofList ['a']).utf8ByteSize = 1 := by decide
      rw [List.replicate_succ', String.ofList_append, String.utf8ByteSize_append,
        inductionHypothesis, single]

/-- A tag is at least as long as what it begins with. -/
theorem utf8ByteSize_prefix_le (options : CompileOptions) (name : String) :
    options.directivePrefix.utf8ByteSize ≤
      (String.ofList (Directive.tag options name)).utf8ByteSize := by
  have whole : Directive.tag options name = ['@'] ++ Directive.tagPrefix options ++ name.toList :=
    rfl
  rw [whole, Directive.tagPrefix]
  split
  · rename_i empty
    have noPrefix : options.directivePrefix = "" := by simpa using empty
    rw [noPrefix]
    exact Nat.zero_le _
  · simp only [String.ofList_append, String.ofList_toList, String.utf8ByteSize_append]
    omega

/-- A header behind such a prefix is not read again. -/
theorem rendered_behind_long_prefix :
    let directives : Directives := { headers := [⟨"X", ""⟩] }
    let inOrder : List Directive := [.header ⟨"X", ""⟩]
    let line := (Directive.header ⟨"X", ""⟩).written longPrefixed
    Directive.HasWordPrefix longPrefixed ∧ directives.IsPlain ∧ directives.Interleaved inOrder ∧
      Directive.Rendered longPrefixed inOrder [line] ∧
      ofText longPrefixed (String.ofList line) ≠ directives := by
  intro directives inOrder line
  have wordPrefix : Directive.HasWordPrefix longPrefixed := by
    intro c member
    rw [longPrefixed, String.toList_ofList] at member
    rw [List.eq_of_mem_replicate member]
    decide
  have rendered : Directive.Rendered longPrefixed inOrder [line] :=
    .directive ⟨[], [], by decide, by decide, (List.append_nil line).symm⟩ .nil
  have long : 330000 ≤ (String.ofList (Directive.tag longPrefixed "bodyParam")).utf8ByteSize :=
    Nat.le_trans (Nat.le_of_eq (utf8ByteSize_replicate 330000).symm)
      (utf8ByteSize_prefix_le longPrefixed "bodyParam")
  have refused :
      PatternEngine.compiles (.directive (Directive.tag longPrefixed "bodyParam")) = false := by
    generalize Directive.tag longPrefixed "bodyParam" = tag at long
    exact decide_eq_false (Nat.not_le.mpr (Nat.lt_of_lt_of_le (by decide) long))
  have lost : ofText longPrefixed (String.ofList line) = {} := by
    rw [ofText, compiles, List.all_cons, refused]
    rfl
  refine ⟨wordPrefix, by decide, ⟨rfl, rfl, rfl, fun _ => rfl⟩, rendered, ?_⟩
  rw [lost]
  decide

end Directives

end Formwork
