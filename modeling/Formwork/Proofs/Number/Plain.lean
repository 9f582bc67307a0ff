/-
This file shows which texts of whole numbers are how the numbers are written: those without a plus,
blanks and leading zeros.
-/

import Formwork.Proofs.Number.Whole
import Mathlib.Data.List.Induction

namespace Formwork

namespace Numeral

/-- Digits of which the first is no zero, unless it is the only one. -/
def isPlainDigits (digits : List Char) : Bool :=
  digits == ['0'] || allDigits digits && digits.head? != some '0'

/-- Whether a text is that of a whole number without anything that could be left out. -/
def isPlain : List Char → Bool
  | '-' :: digits => digits != ['0'] && isPlainDigits digits
  | digits => isPlainDigits digits

theorem isPlainDigits_cases {digits : List Char} (plain : isPlainDigits digits = true) :
    digits = ['0'] ∨ allDigits digits = true ∧ digits.head? ≠ some '0' := by
  simpa [isPlainDigits] using plain

theorem isPlainDigits_digitChars (value : Nat) :
    isPlainDigits (Double.digitChars value) = true := by
  rcases Nat.eq_zero_or_pos value with rfl | positive
  · rfl
  · have isDigit : ∀ c ∈ Double.digitChars value, c.isDigit = true :=
      fun c => Nat.isDigit_of_mem_toDigits (by decide) (by decide)
    have someDigit : Double.digitChars value ≠ [] :=
      List.ne_nil_of_length_pos Nat.length_toDigits_pos
    simpa [isPlainDigits, allDigits, someDigit, Document.head_digitChars positive] using
      .inr isDigit

theorem exists_digitChar {c : Char} (isDigit : c.isDigit = true) :
    ∃ value < 10, c = Nat.digitChar value := by
  have each : ∀ point < 0x3a, 0x30 ≤ point →
      Char.ofNat point = Nat.digitChar (point - 0x30) := by decide
  obtain ⟨above, below⟩ := Document.toNat_of_isDigit isDigit
  refine ⟨c.toNat - 0x30, by omega, ?_⟩
  rw [← each c.toNat (by omega) above, Char.ofNat_toNat]

theorem digitsValue_append (digits : List Char) {value : Nat} (below : value < 10) :
    digitsValue (digits ++ [value.digitChar]) = 10 * digitsValue digits + value := by
  have behind := Nat.ofDigitChars_append (b := 10) (l := digits) (m := [value.digitChar]) 0
  rwa [Nat.ofDigitChars_cons_digitChar_of_lt_ten below, Nat.ofDigitChars_nil] at behind

/-- Digits that do not begin with a zero are the digits of their value. -/
theorem digitChars_digitsValue {digits : List Char} (someDigit : digits ≠ [])
    (isDigit : ∀ c ∈ digits, c.isDigit = true) (noZero : digits.head? ≠ some '0') :
    Double.digitChars (digitsValue digits) = digits := by
  -- from the right, where the digits of a number are split off
  induction digits using List.reverseRecOn with
  | nil => contradiction
  | append_singleton digits digit inductionHypothesis =>
      rw [List.forall_mem_append, List.forall_mem_singleton] at isDigit
      obtain ⟨value, below, rfl⟩ := exists_digitChar isDigit.2
      have isLast : Nat.toDigits 10 value = [value.digitChar] := Nat.toDigits_of_lt_base below
      rw [digitsValue_append digits below, Double.digitChars]
      cases digits with
      | nil => rwa [digitsValue, List.foldl_nil, Nat.mul_zero, Nat.zero_add]
      | cons first others =>
          have shorter := inductionHypothesis (List.cons_ne_nil _ _) isDigit.1 noZero
          have positive : 0 < digitsValue (first :: others) := by
            apply Nat.pos_of_ne_zero
            intro isZero
            rw [isZero] at shorter
            exact noZero (congrArg List.head? (congrArg (· ++ _) shorter.symm))
          rw [← Nat.toDigits_append_toDigits (by decide) positive below, isLast]
          exact congrArg (· ++ _) shorter

theorem digitChars_of_isPlainDigits {digits : List Char} (plain : isPlainDigits digits = true) :
    allDigits digits = true ∧ Double.digitChars (digitsValue digits) = digits := by
  rcases isPlainDigits_cases plain with rfl | ⟨isDigits, noZero⟩
  · exact ⟨rfl, rfl⟩
  · have isDigit := isDigit_of_allDigits isDigits
    have someDigit : digits ≠ [] := by
      rintro rfl
      contradiction
    exact ⟨isDigits, digitChars_digitsValue someDigit isDigit noZero⟩

theorem isPlain_of_isPlainDigits {digits : List Char} (plain : isPlainDigits digits = true) :
    isPlain digits = true := by
  unfold isPlain
  split
  · obtain ⟨isDigits, -⟩ := digitChars_of_isPlainDigits plain
    exact absurd (isDigit_of_allDigits isDigits '-' List.mem_cons_self) (by decide)
  · exact plain

/-- Whole numbers are written plainly. -/
theorem isPlain_integerChars (whole : Int) : isPlain (Number.integerChars whole) = true := by
  cases whole with
  | ofNat value => exact isPlain_of_isPlainDigits (isPlainDigits_digitChars value)
  | negSucc below =>
      have notZero : Double.digitChars (below + 1) ≠ ['0'] :=
        fun isZero => Document.head_digitChars below.succ_pos (congrArg List.head? isZero)
      rw [Number.integerChars, isPlain, isPlainDigits_digitChars, Bool.and_true, bne_iff_ne]
      exact notZero

/-- A plain text is that of some whole number, and how this number is written. -/
theorem exists_writes_of_isPlain {cs : List Char} (plain : isPlain cs = true) :
    ∃ whole, Writes cs whole ∧ Number.integerChars whole = cs := by
  unfold isPlain at plain
  split at plain
  · rename_i digits
    rw [Bool.and_eq_true, bne_iff_ne] at plain
    obtain ⟨isDigits, written⟩ := digitChars_of_isPlainDigits plain.2
    refine ⟨_, .minus isDigits, ?_⟩
    cases value : digitsValue digits with
    | zero => exact absurd (written.symm.trans (congrArg Double.digitChars value)) plain.1
    | succ below =>
        show Number.integerChars (-(digitsValue digits : Int)) = _
        rw [value] at written ⊢
        exact congrArg _ written
  · obtain ⟨isDigits, written⟩ := digitChars_of_isPlainDigits plain
    exact ⟨_, .unsigned isDigits, written⟩

theorem Writes.unique {cs : List Char} {whole other : Int} (writes : Writes cs whole)
    (writesOther : Writes cs other) : whole = other :=
  ((writes_iff cs whole).mp writes).2.trans ((writes_iff cs other).mp writesOther).2.symm

/-- The text of a whole number, which may have blanks around it, is how the number is written
exactly if it is plain. -/
theorem integerChars_eq_iff {cs : List Char} {whole : Int} (writes : Writes (Text.trim cs) whole) :
    Number.integerChars whole = cs ↔ isPlain cs = true := by
  constructor
  · rintro rfl
    exact isPlain_integerChars whole
  · intro plain
    obtain ⟨other, writesOther, written⟩ := exists_writes_of_isPlain plain
    rw [writesOther.trim_eq] at writes
    rwa [writes.unique writesOther]

end Numeral

end Formwork
