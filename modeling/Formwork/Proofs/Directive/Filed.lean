/-
This file shows in which section the directive of a line is filed: in that of its first tag, unless
its description mentions a directive of a section that lines are tried for before.
-/

import Formwork.Proofs.Directive.Interleaved
import Formwork.Proofs.Directive.Tagged
import Formwork.SizedEngine

namespace Formwork

namespace Directives

/-- In any text the line makes this directive and no other, if the patterns of directives compile. -/
def Adds [PatternEngine] (options : CompileOptions) (line : List Char) (directive : Directive) :
    Prop :=
  ∀ before after : List (List Char), (∀ other ∈ before ++ after, '\n' ∉ other) →
    ∃ earlier later,
      (ofText options (String.ofList (['\n'].intercalate (before ++ after)))).Interleaved
        (earlier ++ later) ∧
      (ofText options (String.ofList (['\n'].intercalate (before ++ line :: after)))).Interleaved
        (earlier ++ (if compiles options then [directive] else []) ++ later)

variable {options : CompileOptions}

theorem adds_of_ofLine? [PatternEngine] (wordPrefix : Directive.HasWordPrefix options)
    {line : List Char} (oneLine : '\n' ∉ line) {directive : Directive}
    (read : Directive.ofLine? options line = some directive) : Adds options line directive := by
  intro before after othersOneLine
  have linesOneLine : ∀ other ∈ before ++ line :: after, '\n' ∉ other := by
    rw [List.forall_mem_append] at othersOneLine
    exact List.forall_mem_append.mpr
      ⟨othersOneLine.1, List.forall_mem_cons.mpr ⟨oneLine, othersOneLine.2⟩⟩
  rw [ofText_joined wordPrefix othersOneLine, ofText_joined wordPrefix linesOneLine]
  split
  · refine ⟨before.filterMap (Directive.ofLine? options), after.filterMap (Directive.ofLine? options),
      ?_, ?_⟩
    · rw [← List.filterMap_append]
      exact interleaved_foldl_add _
    · rw [List.append_assoc, List.singleton_append, ← List.filterMap_cons_some read,
        ← List.filterMap_append]
      exact interleaved_foldl_add _
  · exact ⟨[], [], interleaved_foldl_add [], interleaved_foldl_add []⟩

end Directives

namespace Directive

variable {options : CompileOptions}

section

variable (wordPrefix : HasWordPrefix options) {kind : Kind} {decoration rest : List Char}
  (unmarked : '@' ∉ decoration)
include wordPrefix unmarked

/-- A directive of another kind than that of the first tag stands behind this tag or nowhere. -/
theorem stands_tagged_iff {other : Kind} (differ : other ≠ kind) :
    Stands options other (decoration ++ (tag options kind.tagName ++ rest)) ↔
      Stands options other rest := by
  rw [← isSome_find?_iff, ← isSome_find?_iff, find?_tagged wordPrefix unmarked, if_neg differ,
    Option.none_or]

variable (complete : Begins kind.words rest)
include complete

/-- The directive behind the first tag is read, or else one that it mentions. -/
theorem ofLine?_tagged :
    ∃ directive,
      ofLine? options (decoration ++ (tag options kind.tagName ++ rest)) = some directive ∧
      (kind.content? rest = some directive ∨
        directive.kind ∈ kind.earlier ∧ Stands options directive.kind rest) := by
  have tagged (other : Kind) := find?_tagged wordPrefix unmarked kind other rest
  obtain ⟨own, isOwn⟩ := Option.isSome_iff_exists.mp ((isSome_content?_iff kind rest).mpr complete)
  have found : kind.find? options (decoration ++ (tag options kind.tagName ++ rest)) = some own := by
    rw [tagged, if_pos rfl, isOwn, Option.some_or]
  obtain ⟨directive, read⟩ := Option.ne_none_iff_exists'.mp fun nothing => by
    rw [ofLine?_eq_none_iff.mp nothing kind] at found
    cases found
  refine ⟨directive, read, ?_⟩
  obtain ⟨filed, isFiled, nothing⟩ := ofLine?_eq_some_iff.mp read
  rw [kind_of_find? isFiled]
  -- A directive of another kind is not behind the first tag, so it stands in what follows it.
  by_cases same : filed = kind
  · rw [same, found] at isFiled
    exact .inl (isOwn.trans isFiled)
  · right
    refine ⟨(Kind.mem_earlier_or same).resolve_right fun isEarlier => ?_, ?_⟩
    · rw [nothing kind isEarlier] at found
      cases found
    · rw [tagged, if_neg same, Option.none_or] at isFiled
      exact (isSome_find?_iff filed rest).mp (isFiled ▸ rfl)

/-- The directive of the line is of the kind of the first tag exactly if none of a kind that lines
are tried for before stands behind this tag. -/
theorem kind_eq_iff_of_tagged {directive : Directive}
    (read : ofLine? options (decoration ++ (tag options kind.tagName ++ rest)) = some directive) :
    directive.kind = kind ↔ ∀ other ∈ kind.earlier, ¬ Stands options other rest := by
  have stands : Stands options kind (decoration ++ (tag options kind.tagName ++ rest)) :=
    ⟨decoration, rest, rfl, complete⟩
  have isFirst : directive.kind = kind ↔ ∀ other ∈ kind.earlier,
      ¬ Stands options other (decoration ++ (tag options kind.tagName ++ rest)) := by
    rw [← exists_ofLine?_iff.trans (and_iff_right stands), read]
    simp
  rw [isFirst]
  refine forall₂_congr fun other isEarlier => not_congr (stands_tagged_iff wordPrefix unmarked ?_)
  rintro rfl
  exact Kind.not_mem_earlier other isEarlier

end

end Directive

namespace Directives

/-- A complete directive behind some decoration makes one entry of any text. It is in the section of
its tag exactly if what follows the tag does not mention a directive of a section that lines are
tried for before. -/
theorem adds_tagged [PatternEngine] {options : CompileOptions}
    (wordPrefix : Directive.HasWordPrefix options)
    {kind : Directive.Kind} {decoration rest : List Char} (unmarked : '@' ∉ decoration)
    (oneLine : '\n' ∉ decoration ++ rest) (complete : Directive.Begins kind.words rest) :
    ∃ directive,
      Adds options (decoration ++ (Directive.tag options kind.tagName ++ rest)) directive ∧
      (directive.kind = kind ↔
        ∀ other ∈ kind.earlier, ¬ Directive.Stands options other rest) ∧
      (kind.content? rest = some directive ∨
        directive.kind ∈ kind.earlier ∧ Directive.Stands options directive.kind rest) := by
  obtain ⟨directive, read, content⟩ := Directive.ofLine?_tagged wordPrefix unmarked complete
  have wholeOneLine : '\n' ∉ decoration ++ (Directive.tag options kind.tagName ++ rest) := by
    rw [List.mem_append, not_or] at oneLine
    simp only [List.mem_append, not_or]
    exact ⟨oneLine.1, Directive.oneLine_tag wordPrefix kind, oneLine.2⟩
  exact ⟨directive, adds_of_ofLine? wordPrefix wholeOneLine read,
    Directive.kind_eq_iff_of_tagged wordPrefix unmarked complete read, content⟩

/-- A query parameter with a description that mentions a header. -/
theorem adds_tagged_search :
    let options : CompileOptions := {}
    let rest := " string search Goes with @api-header X-Tenant".toList
    Directive.HasWordPrefix options ∧ '@' ∉ "/// ".toList ∧ '\n' ∉ "/// ".toList ++ rest ∧
      Directive.Begins Directive.Kind.query.words rest ∧
      Adds options ("/// ".toList ++ (Directive.tag options "queryParam" ++ rest))
        (.query ⟨"string", "search", "Goes with @api-header X-Tenant"⟩) := by
  intro options rest
  have wordPrefix : Directive.HasWordPrefix options := by decide
  have unmarked : '@' ∉ "/// ".toList := by decide
  have oneLine : '\n' ∉ "/// ".toList ++ rest := by decide
  have complete : Directive.Begins Directive.Kind.query.words rest :=
    (Directive.isSome_content?_iff .query rest).mp (by decide +kernel)
  refine ⟨wordPrefix, unmarked, oneLine, complete, ?_⟩
  obtain ⟨directive, adds, -, content⟩ := adds_tagged wordPrefix unmarked oneLine complete
  rcases content with own | ⟨isEarlier, mentioned⟩
  · have isQuery : Directive.Kind.query.content? rest =
        some (.query ⟨"string", "search", "Goes with @api-header X-Tenant"⟩) := by decide +kernel
    cases isQuery.symm.trans own
    exact adds
  · have unmentioned : Directive.Kind.body.find? options rest = none := by decide +kernel
    rw [List.mem_singleton.mp isEarlier] at mentioned
    exact absurd mentioned (Directive.find?_eq_none_iff.mp unmentioned)

/-- A query parameter with a description that mentions a body parameter is not filed at all, but
the body parameter is. -/
theorem mentioned_parameter_filed :
    let options : CompileOptions := {}
    let rest := " string search Not the @api-bodyParam string name".toList
    Directive.HasWordPrefix options ∧ '@' ∉ "/// ".toList ∧ '\n' ∉ "/// ".toList ++ rest ∧
      Directive.Begins Directive.Kind.query.words rest ∧
      ofText options "/// @api-queryParam string search Not the @api-bodyParam string name" =
        { body := [⟨"string", "name", ""⟩] } := by
  intro options rest
  have complete : Directive.Begins Directive.Kind.query.words rest :=
    (Directive.isSome_content?_iff .query rest).mp (by decide +kernel)
  exact ⟨by decide, by decide, by decide, complete, by decide +kernel⟩

end Directives

end Formwork
