/-
This file shows what the lower case of a text is made of. Every character has its own lower case,
whatever stands around it; only a capital sigma is written with regard to the rest of the text.
-/

import Formwork.Text.Lowercase
import Mathlib.Data.List.Infix

namespace Formwork.Text

/-! The lower case of one character. -/

/-- Whether a code point stands in the lower case of another character. -/
def isLowering (point : Nat) : Bool :=
  (0x61 ≤ point && point ≤ 0x7a) || point == 0x307 ||
    loweringRuns.any fun (first, last, _, shift) =>
      first + shift ≤ (point : Int) && (point : Int) ≤ last + shift

theorem isLowering_toLower :
    ∀ point < 0x80, (Char.ofNat point).toLower = Char.ofNat point ∨
      isLowering (Char.ofNat point).toLower.toNat = true := by
  decide +kernel

theorem isValidChar_of_mem_loweringRuns :
    ∀ run ∈ loweringRuns, 0 ≤ run.1 + run.2.2.2 ∧
      (run.2.1 + run.2.2.2 < 0xd800 ∨
        0xdfff < run.1 + run.2.2.2 ∧ run.2.1 + run.2.2.2 < 0x110000) := by
  decide +kernel

theorem toNat_ofNat {point : Nat} (valid : point.isValidChar) :
    (Char.ofNat point).toNat = point := by
  rw [Char.ofNat, dif_pos valid]
  rfl

theorem isLowering_of_mem_loweringRuns {first last step : Nat} {shift : Int}
    (member : (first, last, step, shift) ∈ loweringRuns) {point : Nat} (atLeast : first ≤ point)
    (atMost : point ≤ last) : isLowering (Char.ofNat (point + shift).toNat).toNat = true := by
  obtain ⟨positive, valid⟩ := isValidChar_of_mem_loweringRuns _ member
  dsimp only at positive valid
  rw [toNat_ofNat (by simp only [Nat.isValidChar]; omega), isLowering, Bool.or_eq_true]
  refine .inr (List.any_eq_true.mpr ⟨_, member, ?_⟩)
  rw [Bool.and_eq_true, decide_eq_true_iff, decide_eq_true_iff]
  omega

/-- A character that is in the lower case of no other one comes from itself. -/
theorem eq_of_mem_lowerChar {c d : Char} (member : d ∈ lowerChar c)
    (unreached : isLowering d.toNat = false) : d = c := by
  rw [lowerChar] at member
  split at member
  · rename_i ascii
    rw [List.mem_singleton] at member
    have lowered := isLowering_toLower c.toNat ascii
    rw [Char.ofNat_toNat, ← member, unreached] at lowered
    exact lowered.resolve_right Bool.false_ne_true
  split at member
  · simp only [List.mem_cons, List.not_mem_nil, or_false] at member
    rcases member with rfl | rfl <;> exact absurd unreached (by decide)
  split at member
  · rename_i first last step shift found
    have inRun := List.find?_some found
    simp only [Bool.and_eq_true, decide_eq_true_iff] at inRun
    rw [List.mem_singleton] at member
    have reached := isLowering_of_mem_loweringRuns (List.mem_of_find?_eq_some found) inRun.1.1
      inRun.1.2
    rw [member, reached] at unreached
    cases unreached
  · exact List.mem_singleton.mp member

theorem lowerChar_ne_nil (c : Char) : lowerChar c ≠ [] := by
  rw [lowerChar]
  split
  · exact List.cons_ne_nil _ _
  split
  · exact List.cons_ne_nil _ _
  split
  · exact List.cons_ne_nil _ _
  · exact List.cons_ne_nil _ _

theorem not_ascii_of_mem_loweringRuns :
    ∀ run ∈ loweringRuns, 0x80 ≤ run.1 + run.2.2.2 ∨ run.1 = 0x212a ∧ run.2.1 = 0x212a := by
  decide +kernel

/-- What is in ASCII in lower case was in ASCII before, but for an I with a dot and the sign for the
kelvin. -/
theorem ascii_of_mem_lowerChar {c d : Char} (member : d ∈ lowerChar c) (ascii : d.toNat < 0x80) :
    c.toNat < 0x80 ∧ d = c.toLower ∨ c = '\u0130' ∧ d = 'i' ∨ c = '\u212a' ∧ d = 'k' := by
  have isChar : ∀ {point : Nat}, c.toNat = point → c = Char.ofNat point := by
    rintro _ rfl
    exact (Char.ofNat_toNat c).symm
  by_cases kelvin : c.toNat = 0x212a
  · have written : lowerChar '\u212a' = ['k'] := by decide +kernel
    obtain rfl := isChar kelvin
    exact .inr (.inr ⟨rfl, List.mem_singleton.mp (written ▸ member)⟩)
  rw [lowerChar] at member
  split at member
  · rename_i asciiBefore
    exact .inl ⟨asciiBefore, List.mem_singleton.mp member⟩
  rename_i notAscii
  split at member
  · rename_i dotted
    rw [List.mem_cons, List.mem_singleton] at member
    rcases member with rfl | rfl
    · exact .inr (.inl ⟨isChar (beq_iff_eq.mp dotted), rfl⟩)
    · exact absurd ascii (by decide)
  split at member
  · rename_i first last step shift found
    have inRun := List.find?_some found
    simp only [Bool.and_eq_true, decide_eq_true_iff] at inRun
    have isRun := List.mem_of_find?_eq_some found
    rw [List.mem_singleton] at member
    obtain ⟨positive, valid⟩ := isValidChar_of_mem_loweringRuns _ isRun
    have above := not_ascii_of_mem_loweringRuns _ isRun
    dsimp only at positive valid above
    rw [member, toNat_ofNat (by simp only [Nat.isValidChar]; omega)] at ascii
    omega
  · rw [List.mem_singleton.mp member] at ascii
    exact absurd ascii notAscii

/-! The lower case of a part of a text. -/

/-- The lower case of a text with the first one, reversed, before it and the second one after it. -/
def lowercaseBetween (reversedBefore after : List Char) : List Char → List Char
  | [] => []
  | c :: rest =>
      (if c == 'Σ' then [lowerSigma reversedBefore (rest ++ after)] else lowerChar c) ++
        lowercaseBetween (c :: reversedBefore) after rest

theorem lowercaseAfter_append (reversedBefore cs after : List Char) :
    lowercaseAfter reversedBefore (cs ++ after) =
      lowercaseBetween reversedBefore after cs ++
        lowercaseAfter (cs.reverse ++ reversedBefore) after := by
  induction cs generalizing reversedBefore with
  | nil => rfl
  | cons c rest inductionHypothesis =>
      rw [List.cons_append, lowercaseAfter, lowercaseBetween, inductionHypothesis,
        List.reverse_cons, List.append_assoc, List.append_assoc]
      rfl

theorem lowercaseBetween_nil (reversedBefore cs : List Char) :
    lowercaseBetween reversedBefore [] cs = lowercaseAfter reversedBefore cs := by
  have appended := lowercaseAfter_append reversedBefore cs []
  rw [List.append_nil, lowercaseAfter, List.append_nil] at appended
  exact appended.symm

/-- But for a sigma, what is written comes from a character of the text. -/
theorem mem_lowercaseBetween {d : Char} {reversedBefore after cs : List Char}
    (member : d ∈ lowercaseBetween reversedBefore after cs) :
    d = 'σ' ∨ d = 'ς' ∨ ∃ c ∈ cs, d ∈ lowerChar c := by
  induction cs generalizing reversedBefore with
  | nil => cases member
  | cons c rest inductionHypothesis =>
      rw [lowercaseBetween, List.mem_append] at member
      rcases member with first | later
      · split at first
        · rw [List.mem_singleton, lowerSigma] at first
          split at first
          · exact .inr (.inl first)
          · exact .inl first
        · exact .inr (.inr ⟨c, List.mem_cons_self, first⟩)
      · rcases inductionHypothesis later with isSigma | isFinal | ⟨source, isMember, written⟩
        · exact .inl isSigma
        · exact .inr (.inl isFinal)
        · exact .inr (.inr ⟨source, List.mem_cons_of_mem _ isMember, written⟩)

/-- A character without letter case that is not in a text is not in its lower case. -/
theorem not_mem_lowercaseBetween {d : Char} (noSigma : d ≠ 'σ' ∧ d ≠ 'ς')
    (unreached : isLowering d.toNat = false) {cs : List Char} (free : d ∉ cs)
    (reversedBefore after : List Char) : d ∉ lowercaseBetween reversedBefore after cs := by
  intro member
  rcases mem_lowercaseBetween member with isSigma | isFinal | ⟨c, isMember, written⟩
  · exact noSigma.1 isSigma
  · exact noSigma.2 isFinal
  · exact free (eq_of_mem_lowerChar written unreached ▸ isMember)

/-- A capital sigma is written as one of the small ones. -/
theorem exists_sigma_of_mem {cs : List Char} (member : 'Σ' ∈ cs) (reversedBefore after : List Char) :
    ∃ d ∈ lowercaseBetween reversedBefore after cs, d = 'σ' ∨ d = 'ς' := by
  induction cs generalizing reversedBefore with
  | nil => cases member
  | cons c rest inductionHypothesis =>
      rw [lowercaseBetween]
      rcases List.mem_cons.mp member with rfl | later
      · refine ⟨lowerSigma reversedBefore (rest ++ after), by simp, ?_⟩
        rw [lowerSigma]
        split
        · exact .inr rfl
        · exact .inl rfl
      · obtain ⟨d, written, isSigma⟩ := inductionHypothesis later (c :: reversedBefore)
        exact ⟨d, List.mem_append_right _ written, isSigma⟩

/-- Without a capital sigma every character is written on its own. -/
theorem lowercaseBetween_of_not_mem {cs : List Char} (noSigma : 'Σ' ∉ cs)
    (reversedBefore after : List Char) :
    lowercaseBetween reversedBefore after cs = cs.flatMap lowerChar := by
  induction cs generalizing reversedBefore with
  | nil => rfl
  | cons c rest inductionHypothesis =>
      rw [List.mem_cons, not_or] at noSigma
      have other : ¬ (c == 'Σ') = true := by simpa using Ne.symm noSigma.1
      rw [lowercaseBetween, inductionHypothesis noSigma.2, if_neg other]
      rfl

/-! Endings of the lower case of a text. -/

/-- A sigma without regard to where it stands in a word. -/
def plainSigma (c : Char) : Char :=
  if c = 'ς' then 'σ' else c

/-- But for the place of a sigma, the text in front does not matter to the lower case. -/
theorem map_plainSigma_lowercaseAfter (first second cs : List Char) :
    (lowercaseAfter first cs).map plainSigma = (lowercaseAfter second cs).map plainSigma := by
  have sigma : ∀ before after, plainSigma (lowerSigma before after) = 'σ' := by
    intro before after
    rw [lowerSigma]
    split <;> rfl
  induction cs generalizing first second with
  | nil => rfl
  | cons c rest inductionHypothesis =>
      rw [lowercaseAfter, lowercaseAfter, List.map_append, List.map_append,
        inductionHypothesis (c :: first) (c :: second)]
      split
      · rw [List.map_singleton, List.map_singleton, sigma, sigma]
      · rfl

theorem map_plainSigma {cs : List Char} (noFinal : 'ς' ∉ cs) : cs.map plainSigma = cs := by
  refine (List.map_congr_left fun c member => if_neg ?_).trans (List.map_id cs)
  rintro rfl
  exact noFinal member

theorem suffix_map_plainSigma {ending cs : List Char} (noSigma : 'σ' ∉ ending ∧ 'ς' ∉ ending) :
    ending <:+ cs.map plainSigma ↔ ending <:+ cs := by
  constructor
  · intro ends
    obtain ⟨written, isSuffix, rfl⟩ := List.suffix_map_iff.mp ends
    rwa [map_plainSigma]
    exact fun isFinal => noSigma.1 (List.mem_map_of_mem isFinal)
  · intro ends
    rw [← map_plainSigma noSigma.2]
    exact ends.map plainSigma

/-- An ending without a sigma does not depend on the text in front. -/
theorem suffix_lowercaseAfter {ending : List Char} (noSigma : 'σ' ∉ ending ∧ 'ς' ∉ ending)
    (reversedBefore cs : List Char) :
    ending <:+ lowercaseAfter reversedBefore cs ↔ ending <:+ lowercase cs := by
  rw [← suffix_map_plainSigma noSigma, map_plainSigma_lowercaseAfter reversedBefore [],
    suffix_map_plainSigma noSigma]
  rfl

end Formwork.Text
