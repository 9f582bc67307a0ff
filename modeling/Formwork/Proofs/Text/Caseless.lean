/-
This file shows what stays where it is in lower case: characters without letter case, and what
stands before, between and behind runs of them.
-/

import Formwork.Proofs.Text.Lowercase
import Formwork.Text.Trim

namespace Formwork.Text

/-- Characters without letter case: each is its own lower case and that of no other one. -/
def IsCaseless (isPart : Char → Bool) : Prop :=
  ∀ c, isPart c = true → lowerChar c = [c] ∧ isLowering c.toNat = false

theorem isCaseless_isBlank : IsCaseless isBlank := by
  have each : ∀ point ∈ blankPoints,
      lowerChar (Char.ofNat point) = [Char.ofNat point] ∧ isLowering point = false := by
    decide +kernel
  intro c blank
  have told := each c.toNat (mem_blankPoints blank)
  rwa [Char.ofNat_toNat] at told

theorem isCaseless_isDigit : IsCaseless Char.isDigit := by
  have each : ∀ point < 0x3a, 0x30 ≤ point →
      lowerChar (Char.ofNat point) = [Char.ofNat point] ∧ isLowering point = false := by
    decide +kernel
  intro c isDigit
  obtain ⟨above, below⟩ : 0x30 ≤ c.toNat ∧ c.toNat ≤ 0x39 := by
    simpa [Char.isDigit, UInt32.le_iff_toNat_le] using isDigit
  have told := each c.toNat (by omega) above
  rwa [Char.ofNat_toNat] at told

theorem IsCaseless.of_mem_lowerChar {isPart : Char → Bool} (caseless : IsCaseless isPart)
    {c d : Char} (member : d ∈ lowerChar c) : isPart d = isPart c := by
  rw [Bool.eq_iff_iff]
  constructor
  · intro part
    rwa [← eq_of_mem_lowerChar member (caseless d part).2]
  · intro part
    rw [(caseless c part).1, List.mem_singleton] at member
    rwa [member]

/-- A run of characters at the beginning is kept where these are written as they are, and all
others as others. -/
theorem span_flatMap {isPart : Char → Bool} {written : Char → List Char}
    (kept : ∀ c, isPart c = true → written c = [c]) (nonempty : ∀ c, written c ≠ [])
    (same : ∀ c, ∀ d ∈ written c, isPart d = isPart c) (cs : List Char) :
    (cs.flatMap written).takeWhile isPart = cs.takeWhile isPart ∧
      (cs.flatMap written).dropWhile isPart = (cs.dropWhile isPart).flatMap written := by
  induction cs with
  | nil => exact ⟨rfl, rfl⟩
  | cons c rest inductionHypothesis =>
      rw [List.flatMap_cons]
      cases part : isPart c with
      | true =>
          rw [kept c part, List.singleton_append, List.takeWhile_cons_of_pos part,
            List.takeWhile_cons_of_pos part, List.dropWhile_cons_of_pos part,
            List.dropWhile_cons_of_pos part, inductionHypothesis.1, inductionHypothesis.2]
          exact ⟨rfl, rfl⟩
      | false =>
          have stops : ¬ isPart c = true := by simp [part]
          obtain ⟨first, others, starts⟩ := List.exists_cons_of_ne_nil (nonempty c)
          have stopsWritten : ¬ isPart first = true := by
            rwa [same c first (starts ▸ List.mem_cons_self)]
          rw [List.takeWhile_cons_of_neg stops, List.dropWhile_cons_of_neg stops, List.flatMap_cons,
            starts, List.cons_append, List.takeWhile_cons_of_neg stopsWritten,
            List.dropWhile_cons_of_neg stopsWritten]
          exact ⟨rfl, rfl⟩

theorem IsCaseless.span_lowerChar {isPart : Char → Bool} (caseless : IsCaseless isPart)
    (cs : List Char) :
    (cs.flatMap lowerChar).takeWhile isPart = cs.takeWhile isPart ∧
      (cs.flatMap lowerChar).dropWhile isPart = (cs.dropWhile isPart).flatMap lowerChar :=
  span_flatMap (fun c part => (caseless c part).1) lowerChar_ne_nil
    (fun _ _ => caseless.of_mem_lowerChar) cs

/-- White space at the ends is removed before or after. -/
theorem trim_flatMap_lowerChar (cs : List Char) :
    trim (cs.flatMap lowerChar) = (trim cs).flatMap lowerChar := by
  have reversed : ((trimStart cs).reverse.flatMap (List.reverse ∘ lowerChar)).dropWhile isBlank =
      ((trimStart cs).reverse.dropWhile isBlank).flatMap (List.reverse ∘ lowerChar) := by
    refine (span_flatMap (fun c blank => ?_) (fun c => ?_) (fun c d member => ?_) _).2
    · rw [Function.comp_apply, (isCaseless_isBlank c blank).1]
      rfl
    · exact fun isNil => lowerChar_ne_nil c (List.reverse_eq_nil_iff.mp isNil)
    · exact isCaseless_isBlank.of_mem_lowerChar (List.mem_reverse.mp member)
  calc
    trim (cs.flatMap lowerChar) = trimEnd ((trimStart cs).flatMap lowerChar) := by
      rw [trim, trimStart, (isCaseless_isBlank.span_lowerChar cs).2]
      rfl
    _ = (((trimStart cs).reverse.dropWhile isBlank).flatMap (List.reverse ∘ lowerChar)).reverse := by
      rw [trimEnd, List.reverse_flatMap, reversed]
    _ = (trim cs).flatMap lowerChar := by
      rw [List.reverse_flatMap, trim, trimEnd]
      refine congrArg (fun written => List.flatMap written _) ?_
      funext c
      rw [Function.comp_apply, Function.comp_apply, List.reverse_reverse]

end Formwork.Text
