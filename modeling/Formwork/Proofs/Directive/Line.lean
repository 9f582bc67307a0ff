/-
This file shows which directives stand in a line, and which of them is the directive of the line.
-/

import Formwork.Directive
import Formwork.Proofs.Text.Lines

namespace Formwork.Directive

/-! Words. -/

/-- A word of such characters. -/
def IsWord (isPart : Char → Bool) (word : List Char) : Prop :=
  word ≠ [] ∧ ∀ c ∈ word, isPart c = true

instance (isPart : Char → Bool) (word : List Char) : Decidable (IsWord isPart word) :=
  haveI := List.decidableBAll (isPart · = true) word
  inferInstanceAs (Decidable (_ ∧ _))

/-- Characters of words, which white space does not belong to. -/
def IsVisible (isPart : Char → Bool) : Prop :=
  ∀ c, isPart c = true → Text.isBlank c = false

theorem isVisible_of_points {isPart : Char → Bool}
    (apart : ∀ point ∈ Text.blankPoints, isPart (Char.ofNat point) = false) :
    IsVisible isPart := by
  intro c part
  refine Bool.eq_false_iff.mpr fun blank => ?_
  have other := apart _ (Text.mem_blankPoints blank)
  rw [Char.ofNat_toNat, part] at other
  cases other

theorem isVisible_isWordChar : IsVisible Text.isWordChar := isVisible_of_points (by decide +kernel)

theorem isVisible_isDecimal : IsVisible Text.isDecimal := isVisible_of_points (by decide +kernel)

theorem IsVisible.orSign {isPart : Char → Bool} (visible : IsVisible isPart) {sign : Char}
    (shown : Text.isBlank sign = false) : IsVisible fun c => isPart c || c == sign := by
  intro c part
  rcases Bool.or_eq_true _ _ ▸ part with isPart | isSign
  · exact visible c isPart
  · rw [beq_iff_eq.mp isSign, shown]

theorem isVisible_isKeyChar : IsVisible isKeyChar :=
  (isVisible_isWordChar.orSign rfl).orSign rfl

theorem isVisible_isHeaderChar : IsVisible isHeaderChar :=
  (isVisible_isWordChar.orSign rfl).orSign rfl

theorem word?_append {isPart : Char → Bool} {word rest : List Char} (isWord : IsWord isPart word)
    (stops : ∀ c ∈ rest.head?, isPart c = false) :
    word? isPart (word ++ rest) = some (word, rest) := by
  obtain ⟨taken, dropped⟩ := Text.takeWhile_word isWord.2 stops
  rw [word?, taken, dropped]
  obtain ⟨c, others, rfl⟩ := List.exists_cons_of_ne_nil isWord.1
  rfl

theorem afterBlank?_append {blank rest : List Char} (isBlank : IsWord Text.isBlank blank)
    (starts : ∀ c ∈ rest.head?, Text.isBlank c = false) :
    afterBlank? (blank ++ rest) = some rest := by
  obtain ⟨nonempty, all⟩ := isBlank
  obtain ⟨c, others, rfl⟩ := List.exists_cons_of_ne_nil nonempty
  rw [List.forall_mem_cons] at all
  rw [List.cons_append, afterBlank?, if_pos all.1, Text.trimStart_padded all.2,
    Text.trimStart_eq_self starts]

/-- A word is read behind white space, up to the first character that does not belong to it. -/
theorem nextWord?_append {isPart : Char → Bool} (visible : IsVisible isPart)
    {blank word rest : List Char} (isBlank : IsWord Text.isBlank blank)
    (isWord : IsWord isPart word) (stops : ∀ c ∈ rest.head?, isPart c = false) :
    nextWord? isPart (blank ++ (word ++ rest)) = some (word, rest) := by
  have starts : ∀ c ∈ (word ++ rest).head?, Text.isBlank c = false := by
    obtain ⟨c, others, rfl⟩ := List.exists_cons_of_ne_nil isWord.1
    intro d isFirst
    cases isFirst
    exact visible c (isWord.2 c List.mem_cons_self)
  rw [nextWord?, afterBlank?_append isBlank starts, Option.bind_some, word?_append isWord stops]

theorem eq_of_word? {isPart : Char → Bool} {cs word rest : List Char}
    (read : word? isPart cs = some (word, rest)) : IsWord isPart word ∧ cs = word ++ rest := by
  rw [word?] at read
  cases taken : cs.takeWhile isPart with
  | nil =>
      rw [taken] at read
      cases read
  | cons c others =>
      rw [taken] at read
      obtain ⟨rfl, rfl⟩ := Prod.mk.inj (Option.some.inj read)
      rw [← taken, List.takeWhile_append_dropWhile]
      exact ⟨⟨taken ▸ List.cons_ne_nil c others, List.all_eq_true.mp List.all_takeWhile⟩, rfl⟩

theorem eq_of_afterBlank? {cs rest : List Char} (read : afterBlank? cs = some rest) :
    ∃ blank, IsWord Text.isBlank blank ∧ cs = blank ++ rest := by
  cases cs with
  | nil => cases read
  | cons c cs =>
      rw [afterBlank?] at read
      split at read
      · rename_i blank
        cases read
        refine ⟨c :: cs.takeWhile Text.isBlank, ⟨List.cons_ne_nil _ _, ?_⟩, ?_⟩
        · exact List.forall_mem_cons.mpr ⟨blank, List.all_eq_true.mp List.all_takeWhile⟩
        · rw [List.cons_append, Text.trimStart, List.takeWhile_append_dropWhile]
      · cases read

/-- What is read is a word behind white space. -/
theorem eq_of_nextWord? {isPart : Char → Bool} {cs word rest : List Char}
    (read : nextWord? isPart cs = some (word, rest)) :
    ∃ blank, IsWord Text.isBlank blank ∧ IsWord isPart word ∧ cs = blank ++ (word ++ rest) := by
  rw [nextWord?, Option.bind_eq_some_iff] at read
  obtain ⟨behind, isBehind, read⟩ := read
  obtain ⟨blank, isBlank, rfl⟩ := eq_of_afterBlank? isBehind
  obtain ⟨isWord, rfl⟩ := eq_of_word? read
  exact ⟨blank, isBlank, isWord, rfl⟩

/-! Kinds. -/

/-- The kinds of directives. -/
inductive Kind where
  | body
  | query
  | response
  | header
deriving DecidableEq

def kind : Directive → Kind
  | body _ => .body
  | query _ => .query
  | response _ _ => .response
  | header _ => .header

/-- Text that begins with words of these kinds, each of them behind white space. -/
inductive Begins : List (Char → Bool) → List Char → Prop where
  | done (rest : List Char) : Begins [] rest
  | word {isPart : Char → Bool} {others : List (Char → Bool)} {blank word rest : List Char}
      (isBlank : IsWord Text.isBlank blank) (isWord : IsWord isPart word)
      (following : Begins others rest) : Begins (isPart :: others) (blank ++ (word ++ rest))

theorem Begins.isBlank_head? {isPart : Char → Bool} {others : List (Char → Bool)} {cs : List Char}
    (begins : Begins (isPart :: others) cs) : ∀ c ∈ cs.head?, Text.isBlank c = true := by
  cases begins with
  | word isBlank =>
      obtain ⟨c, blanks, rfl⟩ := List.exists_cons_of_ne_nil isBlank.1
      intro d isFirst
      cases isFirst
      exact isBlank.2 c List.mem_cons_self

/-- A word that goes on is read to its end. -/
theorem exists_nextWord? {isPart : Char → Bool} (visible : IsVisible isPart)
    {blank word : List Char} (isBlank : IsWord Text.isBlank blank) (isWord : IsWord isPart word)
    (rest : List Char) :
    ∃ whole behind, nextWord? isPart (blank ++ (word ++ rest)) = some (whole, behind) := by
  have whole : IsWord isPart (word ++ rest.takeWhile isPart) :=
    ⟨by simp [isWord.1],
      List.forall_mem_append.mpr ⟨isWord.2, List.all_eq_true.mp List.all_takeWhile⟩⟩
  have stops : ∀ c ∈ (rest.dropWhile isPart).head?, isPart c = false := by
    intro c isFirst
    have stopped := List.head?_dropWhile_not isPart rest
    rwa [Option.mem_def.mp isFirst] at stopped
  have read := nextWord?_append visible isBlank whole stops
  rw [List.append_assoc, List.takeWhile_append_dropWhile] at read
  exact ⟨_, _, read⟩

/-- It does no harm that words are read as far as they go: behind them white space goes on anyway,
or anything at all. -/
theorem begins_cons_iff {isPart : Char → Bool} {others : List (Char → Bool)}
    (visible : IsVisible isPart) {cs : List Char} :
    Begins (isPart :: others) cs ↔
      ∃ word rest, nextWord? isPart cs = some (word, rest) ∧ Begins others rest := by
  constructor
  · intro begins
    cases begins with
    | @word _ _ blank word rest isBlank isWord following =>
        cases others with
        | nil =>
            obtain ⟨whole, behind, read⟩ := exists_nextWord? visible isBlank isWord rest
            exact ⟨whole, behind, read, .done behind⟩
        | cons next others =>
            have stops : ∀ c ∈ rest.head?, isPart c = false := fun c isFirst => by
              refine Bool.eq_false_iff.mpr fun part => ?_
              have blank := following.isBlank_head? c isFirst
              rw [visible c part] at blank
              cases blank
            exact ⟨word, rest, nextWord?_append visible isBlank isWord stops, following⟩
  · rintro ⟨word, rest, read, following⟩
    obtain ⟨blank, isBlank, isWord, rfl⟩ := eq_of_nextWord? read
    exact .word isBlank isWord following

namespace Kind

def tagName : Kind → String
  | body => "bodyParam"
  | query => "queryParam"
  | response => "responseParam"
  | header => "header"

/-- The sections that a line is tried for before this one. -/
def earlier : Kind → List Kind
  | body => []
  | query => [body]
  | response => [body, query]
  | header => [body, query, response]

theorem not_mem_earlier (kind : Kind) : kind ∉ kind.earlier := by
  cases kind <;> decide

theorem mem_earlier_or {kind other : Kind} (differ : other ≠ kind) :
    other ∈ kind.earlier ∨ kind ∈ other.earlier := by
  cases kind <;> cases other <;> first | exact absurd rfl differ | decide

/-- The words that a directive has behind its tag. -/
def words : Kind → List (Char → Bool)
  | body | query => [Text.isWordChar, isKeyChar]
  | response => [Text.isDecimal, Text.isWordChar, isKeyChar]
  | header => [isHeaderChar]

def content? : Kind → List Char → Option Directive
  | body, cs => (parameter? cs).map Directive.body
  | query, cs => (parameter? cs).map Directive.query
  | response, cs => response? cs
  | header, cs => header? cs

/-- The first directive of this section in a line. -/
def find? (options : CompileOptions) (line : List Char) (kind : Kind) :
    Option Directive :=
  findTagged? (tag options kind.tagName) kind.content? line

end Kind

/-- A complete directive of the section stands somewhere in the text. -/
def Stands (options : CompileOptions) (kind : Kind) (cs : List Char) : Prop :=
  ∃ before after, cs = before ++ (tag options kind.tagName ++ after) ∧
    Begins kind.words after

theorem isSome_parameter?_iff {cs : List Char} :
    (parameter? cs).isSome = true ↔ Begins [Text.isWordChar, isKeyChar] cs := by
  rw [begins_cons_iff isVisible_isWordChar]
  simp only [begins_cons_iff isVisible_isKeyChar]
  rw [parameter?]
  cases read : nextWord? Text.isWordChar cs with
  | none => simp
  | some found =>
      obtain ⟨type, rest⟩ := found
      cases readKey : nextWord? isKeyChar rest with
      | none => simp [readKey]
      | some found =>
          obtain ⟨key, rest⟩ := found
          simp [readKey, Begins.done]

theorem isSome_content?_iff (kind : Kind) (cs : List Char) :
    (kind.content? cs).isSome = true ↔ Begins kind.words cs := by
  cases kind with
  | body =>
      rw [Kind.content?, Option.isSome_map, isSome_parameter?_iff]
      rfl
  | query =>
      rw [Kind.content?, Option.isSome_map, isSome_parameter?_iff]
      rfl
  | response =>
      rw [Kind.words, begins_cons_iff isVisible_isDecimal, Kind.content?, response?]
      simp only [← isSome_parameter?_iff]
      cases read : nextWord? Text.isDecimal cs with
      | none => simp
      | some found =>
          obtain ⟨status, rest⟩ := found
          simp
  | header =>
      rw [Kind.words, begins_cons_iff isVisible_isHeaderChar, Kind.content?, header?]
      cases read : nextWord? isHeaderChar cs with
      | none => simp
      | some found =>
          obtain ⟨key, rest⟩ := found
          simp [Begins.done]

theorem kind_of_content? {kind : Kind} {cs : List Char} {directive : Directive}
    (read : kind.content? cs = some directive) : directive.kind = kind := by
  cases kind with
  | body =>
      obtain ⟨parameter, -, rfl⟩ := Option.map_eq_some_iff.mp read
      rfl
  | query =>
      obtain ⟨parameter, -, rfl⟩ := Option.map_eq_some_iff.mp read
      rfl
  | response =>
      obtain ⟨found, -, read⟩ := Option.bind_eq_some_iff.mp read
      obtain ⟨parameter, -, rfl⟩ := Option.map_eq_some_iff.mp read
      rfl
  | header =>
      obtain ⟨found, -, read⟩ := Option.bind_eq_some_iff.mp read
      cases read
      rfl

/-! Places in a line. -/

section Places

variable {tag : List Char} {content? : List Char → Option Directive}

theorem findTagged?_eq (nonempty : tag ≠ []) (cs : List Char) :
    findTagged? tag content? cs =
      ((tag.isPrefixOf? cs).bind content?).or (findTagged? tag content? cs.tail) := by
  cases cs with
  | nil =>
      obtain ⟨c, others, rfl⟩ := List.exists_cons_of_ne_nil nonempty
      rfl
  | cons c rest => rw [findTagged?, Option.orElse_eq_orElse, Option.orElse_eq_or, List.tail_cons]

theorem isSome_tagged_iff {cs : List Char} :
    ((tag.isPrefixOf? cs).bind content?).isSome = true ↔
      ∃ after, cs = tag ++ after ∧ (content? after).isSome = true := by
  rw [Option.isSome_iff_exists]
  simp only [Option.bind_eq_some_iff, List.isPrefixOf?_eq_some_iff_append_eq,
    Option.isSome_iff_exists]
  constructor
  · rintro ⟨directive, after, whole, read⟩
    exact ⟨after, whole.symm, directive, read⟩
  · rintro ⟨after, whole, directive, read⟩
    exact ⟨directive, after, whole.symm, read⟩

/-- A directive is found exactly if a tag with the content it asks for stands somewhere. -/
theorem isSome_findTagged?_iff (nonempty : tag ≠ []) {cs : List Char} :
    (findTagged? tag content? cs).isSome = true ↔
      ∃ before after, cs = before ++ (tag ++ after) ∧ (content? after).isSome = true := by
  induction cs with
  | nil => simp [findTagged?, nonempty]
  | cons c rest inductionHypothesis =>
      rw [findTagged?_eq nonempty, Option.isSome_or, Bool.or_eq_true, isSome_tagged_iff,
        List.tail_cons, inductionHypothesis]
      constructor
      · rintro (⟨after, whole, read⟩ | ⟨before, after, rfl, read⟩)
        · exact ⟨[], after, whole, read⟩
        · exact ⟨c :: before, after, rfl, read⟩
      · rintro ⟨before, after, whole, read⟩
        cases before with
        | nil => exact .inl ⟨after, whole, read⟩
        | cons d before => exact .inr ⟨before, after, (List.cons.inj whole).2, read⟩

/-- What is found is content. -/
theorem exists_content_of_findTagged? {cs : List Char} {directive : Directive}
    (found : findTagged? tag content? cs = some directive) :
    ∃ after, content? after = some directive := by
  induction cs with
  | nil => cases found
  | cons c rest inductionHypothesis =>
      rw [findTagged?, Option.orElse_eq_orElse, Option.orElse_eq_or, Option.or_eq_some_iff,
        Option.bind_eq_some_iff] at found
      rcases found with ⟨after, -, read⟩ | ⟨-, later⟩
      · exact ⟨after, read⟩
      · exact inductionHypothesis later

/-- No tag stands where it would begin with another sign. -/
theorem findTagged?_bare {sign : Char} {name cs : List Char} (bare : sign ∉ cs) (rest : List Char) :
    findTagged? (sign :: name) content? (cs ++ rest) =
      findTagged? (sign :: name) content? rest := by
  induction cs with
  | nil => rfl
  | cons c cs inductionHypothesis =>
      rw [List.mem_cons, not_or] at bare
      have unmarked : (sign :: name).isPrefixOf? (c :: (cs ++ rest)) = none := by
        refine Text.isPrefixOf?_eq_none ?_
        rw [List.isPrefixOf, beq_false_of_ne bare.1, Bool.false_and]
      rw [List.cons_append, findTagged?_eq (List.cons_ne_nil _ _), unmarked, Option.bind_none,
        Option.none_or]
      exact inductionHypothesis bare.2

end Places

/-! The directive of a line. -/

variable {options : CompileOptions}

/-- A line is tried for one kind after the other. -/
theorem ofLine?_eq (line : List Char) :
    ofLine? options line =
      (Kind.body.find? options line).or ((Kind.query.find? options line).or
        ((Kind.response.find? options line).or (Kind.header.find? options line))) := by
  simp only [ofLine?, Option.orElse_eq_orElse, Option.orElse_eq_or]
  rfl

theorem ofLine?_eq_some_iff {line : List Char} {directive : Directive} :
    ofLine? options line = some directive ↔
      ∃ kind : Kind, kind.find? options line = some directive ∧
        ∀ other ∈ kind.earlier, other.find? options line = none := by
  rw [ofLine?_eq]
  simp only [Option.or_eq_some_iff]
  constructor
  · rintro (body | ⟨noBody, query | ⟨noQuery, response | ⟨noResponse, header⟩⟩⟩)
    · exact ⟨.body, body, by simp [Kind.earlier]⟩
    · exact ⟨.query, query, by simp [Kind.earlier, noBody]⟩
    · exact ⟨.response, response, by simp [Kind.earlier, noBody, noQuery]⟩
    · exact ⟨.header, header, by simp [Kind.earlier, noBody, noQuery, noResponse]⟩
  · rintro ⟨kind, found, none⟩
    cases kind <;> simp_all [Kind.earlier]

theorem ofLine?_eq_none_iff {line : List Char} :
    ofLine? options line = none ↔ ∀ kind : Kind, kind.find? options line = none := by
  rw [ofLine?_eq]
  simp only [Option.or_eq_none_iff]
  constructor
  · rintro ⟨body, query, response, header⟩ kind
    cases kind with
    | body => exact body
    | query => exact query
    | response => exact response
    | header => exact header
  · exact fun none => ⟨none .body, none .query, none .response, none .header⟩

theorem tag_ne_nil (name : String) : tag options name ≠ [] :=
  List.cons_ne_nil _ _

theorem isSome_find?_iff (kind : Kind) (line : List Char) :
    (kind.find? options line).isSome = true ↔ Stands options kind line := by
  rw [Kind.find?, isSome_findTagged?_iff (tag_ne_nil _), Stands]
  simp only [isSome_content?_iff]

theorem find?_eq_none_iff {kind : Kind} {line : List Char} :
    kind.find? options line = none ↔ ¬ Stands options kind line := by
  rw [← isSome_find?_iff, Option.not_isSome_iff_eq_none]

theorem kind_of_find? {kind : Kind} {line : List Char} {directive : Directive}
    (found : kind.find? options line = some directive) : directive.kind = kind := by
  obtain ⟨after, read⟩ := exists_content_of_findTagged? found
  exact kind_of_content? read

/-- The directive of a line is of the first kind that stands in it. -/
theorem exists_ofLine?_iff {line : List Char} {kind : Kind} :
    (∃ directive, ofLine? options line = some directive ∧ directive.kind = kind) ↔
      Stands options kind line ∧ ∀ other ∈ kind.earlier, ¬ Stands options other line := by
  rw [← isSome_find?_iff]
  simp only [← find?_eq_none_iff]
  constructor
  · rintro ⟨directive, read, rfl⟩
    obtain ⟨kind, found, nothing⟩ := ofLine?_eq_some_iff.mp read
    rw [kind_of_find? found]
    exact ⟨found ▸ rfl, nothing⟩
  · rintro ⟨here, nothing⟩
    obtain ⟨directive, found⟩ := Option.isSome_iff_exists.mp here
    exact ⟨directive, ofLine?_eq_some_iff.mpr ⟨kind, found, nothing⟩, kind_of_find? found⟩

end Formwork.Directive
