/-
This file shows what a name in snake case is made of: the lower case of the letters and numbers of
the name, and underscores. It is empty only if the name has none of them.
-/

import Formwork.Proofs.Text.Lowercase
import Formwork.Text.SnakeCase

namespace Formwork.Text

theorem mem_intercalate {α : Type} {separator a : α} {parts : List (List α)}
    (member : a ∈ [separator].intercalate parts) : a = separator ∨ ∃ part ∈ parts, a ∈ part := by
  induction parts with
  | nil => cases member
  | cons first rest inductionHypothesis =>
      cases rest with
      | nil =>
          rw [List.intercalate_singleton] at member
          exact .inr ⟨first, List.mem_cons_self, member⟩
      | cons next rest =>
          rw [List.intercalate_cons_cons, List.append_assoc, List.mem_append,
            List.singleton_append, List.mem_cons] at member
          rcases member with inFirst | isSeparator | later
          · exact .inr ⟨first, List.mem_cons_self, inFirst⟩
          · exact .inl isSeparator
          · exact (inductionHypothesis later).imp_right fun ⟨part, isPart, inPart⟩ =>
              ⟨part, List.mem_cons_of_mem _ isPart, inPart⟩

theorem intercalate_eq_nil {α : Type} {separator : α} {parts : List (List α)}
    (empty : [separator].intercalate parts = []) : ∀ part ∈ parts, part = [] := by
  cases parts with
  | nil => nofun
  | cons first rest =>
      cases rest with
      | nil =>
          rw [List.intercalate_singleton] at empty
          exact List.forall_mem_singleton.mpr empty
      | cons next rest =>
          rw [List.intercalate_cons_cons] at empty
          simp at empty

/-! Words. -/

theorem flatten_alphanumericRuns (cs : List Char) :
    (alphanumericRuns cs).flatten = cs.filter isAlphanumeric := by
  induction cs with
  | nil => rfl
  | cons c rest inductionHypothesis =>
      rw [alphanumericRuns]
      split
      · rename_i alphanumeric
        rw [List.filter_cons_of_pos alphanumeric, ← inductionHypothesis]
        split
        · rename_i noRuns
          rw [noRuns]
          rfl
        · rename_i isRuns
          rw [isRuns]
          rfl
      · rename_i other
        rw [List.filter_cons_of_neg other, List.flatten_cons, inductionHypothesis]
        rfl

theorem flatten_wordsFrom (word : WordCase) (reversed : List Char) {cs : List Char}
    (nonempty : cs ≠ []) : (wordsFrom word reversed cs).flatten = reversed.reverse ++ cs := by
  fun_induction wordsFrom word reversed cs with
  | case1 => contradiction
  | case2 => simp
  | case3 word reversed c next rest extended ends inductionHypothesis =>
      rw [List.flatten_cons, inductionHypothesis (List.cons_ne_nil _ _)]
      simp
  | case4 word reversed c next rest extended goesOn ends inductionHypothesis =>
      rw [List.flatten_cons, inductionHypothesis (List.cons_ne_nil _ _)]
      simp
  | case5 word reversed c next rest extended goesOn inside inductionHypothesis =>
      rw [inductionHypothesis (List.cons_ne_nil _ _)]
      simp

/-- The words of a name, in which no letter and no number is lost. -/
def words (cs : List Char) : List (List Char) :=
  (alphanumericRuns cs).flatMap (wordsFrom .uncased [])

theorem flatten_words (cs : List Char) : (words cs).flatten = cs.filter isAlphanumeric := by
  have whole : ∀ run, (wordsFrom .uncased [] run).flatten = run := fun run => by
    by_cases empty : run = []
    · rw [empty]
      rfl
    · exact flatten_wordsFrom .uncased [] empty
  rw [← flatten_alphanumericRuns, words, List.flatMap_def, List.flatten_flatten, List.map_map]
  exact congrArg List.flatten (List.map_id'' whole _)

theorem mem_word {word cs : List Char} (isWord : word ∈ words cs) {c : Char} (member : c ∈ word) :
    c ∈ cs ∧ isAlphanumeric c = true := by
  have inFlatten : c ∈ (words cs).flatten := List.mem_flatten.mpr ⟨word, isWord, member⟩
  rw [flatten_words] at inFlatten
  exact List.mem_filter.mp inFlatten

theorem mem_lowerWord {d : Char} {word : List Char} (member : d ∈ lowerWord word) :
    d = 'ς' ∨ ∃ c ∈ word, d ∈ lowerChar c := by
  fun_induction lowerWord word with
  | case1 => cases member
  | case2 => exact .inl (List.mem_singleton.mp member)
  | case3 c => exact .inr ⟨c, List.mem_cons_self, member⟩
  | case4 c next rest inductionHypothesis =>
      rcases List.mem_append.mp member with first | later
      · exact .inr ⟨c, List.mem_cons_self, first⟩
      · exact (inductionHypothesis later).imp_right fun ⟨source, inRest, written⟩ =>
          ⟨source, List.mem_cons_of_mem _ inRest, written⟩

theorem lowerWord_ne_nil {word : List Char} (nonempty : word ≠ []) : lowerWord word ≠ [] := by
  fun_cases lowerWord word with
  | case1 => contradiction
  | case2 => exact List.cons_ne_nil _ _
  | case3 c => exact lowerChar_ne_nil c
  | case4 c => exact List.append_ne_nil_of_left_ne_nil (lowerChar_ne_nil c) _

/-! Names in snake case. -/

theorem mem_snakeCase {d : Char} {cs : List Char} (member : d ∈ snakeCase cs) :
    d = '_' ∨ d = 'ς' ∨ ∃ c ∈ cs, isAlphanumeric c = true ∧ d ∈ lowerChar c := by
  rcases mem_intercalate member with isUnderscore | ⟨written, isWritten, inWritten⟩
  · exact .inl isUnderscore
  obtain ⟨word, isWord, rfl⟩ := List.mem_map.mp isWritten
  rcases mem_lowerWord inWritten with isSigma | ⟨c, inWord, lowered⟩
  · exact .inr (.inl isSigma)
  · obtain ⟨inName, alphanumeric⟩ := mem_word isWord inWord
    exact .inr (.inr ⟨c, inName, alphanumeric, lowered⟩)

theorem snakeCase_eq_nil_iff (cs : List Char) :
    snakeCase cs = [] ↔ ∀ c ∈ cs, isAlphanumeric c = false := by
  constructor
  · intro empty c member
    refine Bool.eq_false_iff.mpr fun alphanumeric => ?_
    have inWords : c ∈ (words cs).flatten := by
      rw [flatten_words]
      exact List.mem_filter.mpr ⟨member, alphanumeric⟩
    obtain ⟨word, isWord, inWord⟩ := List.mem_flatten.mp inWords
    exact lowerWord_ne_nil (List.ne_nil_of_mem inWord)
      (intercalate_eq_nil empty _ (List.mem_map_of_mem isWord))
  · intro none
    have noRuns : (alphanumericRuns cs).flatten = [] := by
      rw [flatten_alphanumericRuns, List.filter_eq_nil_iff]
      exact fun c member => Bool.eq_false_iff.mp (none c member)
    have noWords : words cs = [] := by
      rw [words, List.flatMap_eq_nil_iff]
      intro run isRun
      rw [List.flatten_eq_nil_iff.mp noRuns run isRun]
      rfl
    rw [snakeCase, ← words, noWords]
    rfl

/-! Characters that no name in snake case has. -/

/-- A character that is neither letter nor number and in no lower case is in no name in snake case,
underscores apart. -/
theorem not_mem_snakeCase {d : Char} (other : isAlphanumeric d = false)
    (unreached : isLowering d.toNat = false) (notUnderscore : d ≠ '_') (cs : List Char) :
    d ∉ snakeCase cs := by
  intro member
  rcases mem_snakeCase member with isUnderscore | isSigma | ⟨c, -, alphanumeric, lowered⟩
  · exact notUnderscore isUnderscore
  · rw [isSigma] at other
    exact absurd other (by decide +kernel)
  · rw [eq_of_mem_lowerChar lowered unreached, alphanumeric] at other
    cases other

theorem isBlank_of_mem_snakeCase {d : Char} {cs : List Char} (member : d ∈ snakeCase cs) :
    isBlank d = false := by
  have apart : ∀ point ∈ blankPoints, isAlphanumeric (Char.ofNat point) = false ∧
      isLowering point = false ∧ Char.ofNat point ≠ '_' := by decide +kernel
  refine Bool.eq_false_iff.mpr fun blank => ?_
  obtain ⟨other, unreached, notUnderscore⟩ := apart _ (mem_blankPoints blank)
  rw [Char.ofNat_toNat] at other notUnderscore
  exact not_mem_snakeCase other unreached notUnderscore cs member

theorem not_mem_snakeCase_backslash (cs : List Char) : '\\' ∉ snakeCase cs :=
  not_mem_snakeCase (by decide) (by decide +kernel) (by decide) cs

end Formwork.Text
