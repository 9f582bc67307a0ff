/-
This file shows that the type of a field is the join of what its tokens tell: the first that is told
in the highest tier, wherever its token stands.
-/

import Formwork.Resolve.TypeTier

namespace Formwork

theorem TypeTier.rank_inj {first second : TypeTier} (same : first.rank = second.rank) :
    first = second := by
  cases first <;> cases second <;> first | rfl | cases same

namespace TypeResolution

theorem rank_join (first second : TypeResolution) :
    (first.join second).tier.rank = min first.tier.rank second.tier.rank := by
  rw [join]
  split <;> omega

theorem join_eq_left {first second : TypeResolution}
    (atLeast : first.tier.rank ≤ second.tier.rank) : first.join second = first :=
  if_neg (Nat.not_lt.mpr atLeast)

theorem join_eq_right {first second : TypeResolution}
    (stronger : second.tier.rank < first.tier.rank) : first.join second = second :=
  if_pos stronger

/-- A stronger resolution is seen behind a join. -/
theorem eq_of_join_eq_join {first second third : TypeResolution}
    (stronger : second.tier.rank < first.tier.rank) (same : first.join second = first.join third) :
    second = third := by
  rw [join_eq_right stronger] at same
  by_cases also : third.tier.rank < first.tier.rank
  · rwa [join_eq_right also] at same
  · rw [join_eq_left (Nat.not_lt.mp also)] at same
    exact absurd (same ▸ stronger) (Nat.lt_irrefl _)

/-- A joined resolution matters only if it is stronger. -/
theorem join_eq_join_iff {first second third : TypeResolution} :
    first.join second = first.join third ↔
      (second.tier.rank < first.tier.rank ∨ third.tier.rank < first.tier.rank →
        second = third) := by
  constructor
  · rintro same (stronger | stronger)
    · exact eq_of_join_eq_join stronger same
    · exact (eq_of_join_eq_join stronger same.symm).symm
  · intro same
    by_cases below : second.tier.rank < first.tier.rank ∨ third.tier.rank < first.tier.rank
    · rw [same below]
    · rw [not_or, Nat.not_lt, Nat.not_lt] at below
      rw [join_eq_left below.1, join_eq_left below.2]

theorem join_eq_file_iff {first second : TypeResolution} (other : first.tier ≠ .file) :
    first.join second = ⟨.file, .file⟩ ↔ second = ⟨.file, .file⟩ := by
  constructor
  · intro isFile
    rw [join] at isFile
    split at isFile
    · exact isFile
    · exact absurd (congrArg tier isFile) other
  · rintro rfl
    refine join_eq_right (Nat.pos_of_ne_zero fun zero => other ?_)
    exact TypeTier.rank_inj zero

/-- What is joined before the other resolutions can be joined to all of them. -/
theorem foldl_join (first : TypeResolution) (told : List TypeResolution) :
    told.foldl join first = first.join (told.foldl join fallback) := by
  induction told generalizing first with
  | nil => exact (join_fallback first).symm
  | cons next rest inductionHypothesis =>
      rw [List.foldl_cons, List.foldl_cons, inductionHypothesis (first.join next),
        inductionHypothesis (fallback.join next), join_assoc fallback, ← join_assoc first,
        join_fallback, join_assoc]

/-- The first of several resolutions in the highest of their tiers. -/
structure IsFirst (best : TypeResolution) (told : List TypeResolution) : Prop where
  found : told.find? (·.tier = best.tier) = some best
  highest : ∀ other ∈ told, best.tier.rank ≤ other.tier.rank

theorem IsFirst.mem {best : TypeResolution} {told : List TypeResolution}
    (isFirst : best.IsFirst told) : best ∈ told :=
  List.mem_of_find?_eq_some isFirst.found

theorem isFirst_singleton (only : TypeResolution) : only.IsFirst [only] where
  found := List.find?_cons_of_pos (decide_eq_true rfl)
  highest := by simp

theorem find?_of_weaker {best other : TypeResolution} (weaker : best.tier.rank < other.tier.rank)
    (rest : List TypeResolution) :
    (other :: rest).find? (·.tier = best.tier) = rest.find? (·.tier = best.tier) := by
  have differs : other.tier ≠ best.tier := fun same => by
    rw [same] at weaker
    exact Nat.lt_irrefl _ weaker
  simp only [List.find?_cons, differs, decide_false]

theorem find?_of_same {best other : TypeResolution} (same : other.tier = best.tier)
    (rest : List TypeResolution) : (other :: rest).find? (·.tier = best.tier) = some other := by
  simp only [List.find?_cons, same, decide_true]

/-- What stands behind an earlier resolution wins only from a higher tier. -/
theorem IsFirst.of_join {first second best : TypeResolution} {told : List TypeResolution}
    (isFirst : best.IsFirst (first.join second :: told)) :
    best.IsFirst (first :: second :: told) := by
  have joined := rank_join first second
  have atMost := isFirst.highest _ List.mem_cons_self
  constructor
  · have found := isFirst.found
    by_cases stronger : second.tier.rank < first.tier.rank
    · rw [join_eq_right stronger] at found
      rwa [find?_of_weaker (by omega)]
    rw [join_eq_left (Nat.not_lt.mp stronger)] at found
    by_cases same : first.tier = best.tier
    · rw [find?_of_same same] at found ⊢
      exact found
    · have below : best.tier.rank < first.tier.rank :=
        Nat.lt_of_le_of_ne (by omega) fun sameRank => same (TypeTier.rank_inj sameRank).symm
      rw [find?_of_weaker below] at found ⊢
      rwa [find?_of_weaker (by omega)]
  · intro other member
    rcases List.mem_cons.mp member with rfl | later
    · omega
    rcases List.mem_cons.mp later with rfl | later
    · omega
    · exact isFirst.highest other (List.mem_cons_of_mem _ later)

theorem isFirst_foldl (first : TypeResolution) (told : List TypeResolution) :
    (told.foldl join first).IsFirst (first :: told) := by
  induction told generalizing first with
  | nil => exact isFirst_singleton first
  | cons next rest inductionHypothesis =>
      rw [List.foldl_cons]
      exact (inductionHypothesis (first.join next)).of_join

end TypeResolution

/-- All that the type of a field can be: what its tokens tell, and a text. -/
def candidates (options : CompileOptions) (tokens : List String) : List TypeResolution :=
  .fallback :: tokens.filterMap (tokenResolution? options)

section

variable {options : CompileOptions} {first second : List String}

theorem resolveType_append (options : CompileOptions) (first second : List String) :
    resolveType options (first ++ second) =
      (resolveType options first).join (resolveType options second) := by
  rw [resolveType, List.filterMap_append, List.foldl_append, TypeResolution.foldl_join]
  rfl

theorem resolveType_isFirst (options : CompileOptions) (tokens : List String) :
    (resolveType options tokens).IsFirst (candidates options tokens) :=
  TypeResolution.isFirst_foldl .fallback _

theorem candidates_subset (part : first ⊆ second) :
    candidates options first ⊆ candidates options second :=
  List.cons_subset_cons _ (List.filterMap_subset _ part)

theorem rank_resolveType_le (part : first ⊆ second) :
    (resolveType options second).tier.rank ≤ (resolveType options first).tier.rank :=
  (resolveType_isFirst options second).highest _
    (candidates_subset part (resolveType_isFirst options first).mem)

end

/-- What a file indicator tells. -/
theorem tokenResolution?_of_isFileIndicator {token : String}
    (indicates : isFileIndicator (Text.lowercase (Text.trim token.toList)) = true)
    (options : CompileOptions) : tokenResolution? options token = some ⟨.file, .file⟩ := by
  rw [tokenResolution?]
  split
  · rename_i blank
    rw [blank] at indicates
    exact absurd indicates (by decide)
  · rw [classify?, if_pos indicates]

/-- A token that tells something tells more than nothing, and only a file from the highest tier. -/
theorem classify?_cases {options : CompileOptions} {token : List Char} {told : TypeResolution}
    (classified : classify? options token = some told) :
    told = ⟨.file, .file⟩ ∨ told.tier ≠ .file ∧ told.tier ≠ .fallback := by
  rw [classify?] at classified
  split at classified
  · cases classified
    exact .inl rfl
  split at classified
  · cases classified
    exact .inr ⟨nofun, nofun⟩
  split at classified
  · cases classified
    exact .inr ⟨nofun, nofun⟩
  split at classified
  · cases classified
    exact .inr ⟨nofun, nofun⟩
  split at classified
  · cases classified
    exact .inr ⟨nofun, nofun⟩
  split at classified
  · cases classified
    exact .inr ⟨nofun, nofun⟩
  · cases classified

theorem tokenResolution?_cases {options : CompileOptions} {token : String} {told : TypeResolution}
    (tells : tokenResolution? options token = some told) :
    told = ⟨.file, .file⟩ ∨ told.tier ≠ .file ∧ told.tier ≠ .fallback := by
  rw [tokenResolution?] at tells
  split at tells
  · cases tells
  · exact classify?_cases tells

theorem resolveType_singleton (options : CompileOptions) (token : String) :
    resolveType options [token] = (tokenResolution? options token).getD .fallback := by
  rw [resolveType]
  cases tells : tokenResolution? options token with
  | none =>
      rw [List.filterMap_cons_none tells]
      rfl
  | some told =>
      have stronger : told.tier ≠ .fallback := by
        rcases tokenResolution?_cases tells with rfl | other
        · decide
        · exact other.2
      rw [List.filterMap_cons_some tells]
      refine TypeResolution.join_eq_right ?_
      cases tier : told.tier with
      | fallback => exact absurd tier stronger
      | _ => decide

theorem eq_file_of_mem_candidates {options : CompileOptions} {tokens : List String}
    {told : TypeResolution} (member : told ∈ candidates options tokens)
    (isFile : told.tier = .file) : told = ⟨.file, .file⟩ := by
  rcases List.mem_cons.mp member with rfl | member
  · cases isFile
  · obtain ⟨token, -, tells⟩ := List.mem_filterMap.mp member
    exact (tokenResolution?_cases tells).resolve_right fun other => other.1 isFile

theorem resolveType_of_isFileIndicator {token : String} {tokens : List String}
    (member : token ∈ tokens)
    (indicates : isFileIndicator (Text.lowercase (Text.trim token.toList)) = true)
    (options : CompileOptions) : resolveType options tokens = ⟨.file, .file⟩ := by
  have isFirst := resolveType_isFirst options tokens
  have told : ⟨.file, .file⟩ ∈ candidates options tokens :=
    List.mem_cons_of_mem _ (List.mem_filterMap.mpr
      ⟨token, member, tokenResolution?_of_isFileIndicator indicates options⟩)
  have highest : (resolveType options tokens).tier.rank = TypeTier.file.rank :=
    Nat.le_zero.mp (isFirst.highest _ told)
  exact eq_file_of_mem_candidates isFirst.mem (TypeTier.rank_inj highest)

/-- The type of a field is the join of the types of any two parts of its tokens. More tokens never
lower the tier, a file indicator makes the field a file, and the order of the tokens tells no more
than which of those in the highest tier comes first. -/
theorem resolveType_join (options : CompileOptions) :
    (∀ first second,
      resolveType options (first ++ second) =
        if (resolveType options first).tier.rank ≤ (resolveType options second).tier.rank then
          resolveType options first
        else resolveType options second) ∧
      (∀ tokens more, tokens ⊆ more →
        (resolveType options more).tier.rank ≤ (resolveType options tokens).tier.rank) ∧
      (∀ before token after, isFileIndicator (Text.lowercase (Text.trim token.toList)) = true →
        resolveType options (before ++ token :: after) = ⟨.file, .file⟩) ∧
      (∀ tokens permuted, tokens.Perm permuted →
        (resolveType options permuted).tier = (resolveType options tokens).tier ∧
          resolveType options permuted ∈ candidates options tokens) ∧
      ∀ tokens, (resolveType options tokens).IsFirst (candidates options tokens) := by
  refine ⟨fun first second => ?_, fun tokens more part => rank_resolveType_le part,
    fun before token after => ?_, fun tokens permuted order => ⟨?_, ?_⟩,
    resolveType_isFirst options⟩
  · rw [resolveType_append]
    split
    · exact TypeResolution.join_eq_left ‹_›
    · exact TypeResolution.join_eq_right (Nat.not_le.mp ‹_›)
  · exact fun indicates => resolveType_of_isFileIndicator (by simp) indicates options
  · exact TypeTier.rank_inj
      (Nat.le_antisymm (rank_resolveType_le order.subset) (rank_resolveType_le order.symm.subset))
  · exact candidates_subset order.symm.subset (resolveType_isFirst options permuted).mem

/-- Of two native rules the first one wins in either order, and a file indicator wins over both. -/
theorem resolveType_join_avatar :
    let tokens := ["integer", "nullable", "email"]
    let permuted := ["email", "nullable", "integer"]
    let avatar := ["integer", "nullable", "Image", "email"]
    tokens ⊆ avatar ∧ isFileIndicator (Text.lowercase (Text.trim "Image".toList)) = true ∧
      tokens.Perm permuted ∧
      (resolveType {} avatar).tier.rank ≤ (resolveType {} tokens).tier.rank ∧
      resolveType {} avatar = ⟨.file, .file⟩ ∧
      (resolveType {} permuted).tier = (resolveType {} tokens).tier ∧
      resolveType {} tokens = ⟨.number, .native⟩ ∧ resolveType {} permuted = ⟨.email, .native⟩ := by
  intro tokens permuted avatar
  obtain ⟨-, more, file, order, -⟩ := resolveType_join {}
  have part : tokens ⊆ avatar := by decide
  have indicates : isFileIndicator (Text.lowercase (Text.trim "Image".toList)) = true := by decide
  have isPermuted : tokens.Perm permuted := by decide
  exact ⟨part, indicates, isPermuted, more _ _ part,
    file ["integer", "nullable"] "Image" ["email"] indicates, (order _ _ isPermuted).1,
    by decide, by decide⟩

end Formwork
