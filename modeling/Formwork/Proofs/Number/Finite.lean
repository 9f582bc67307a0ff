/-
This file shows which texts are read as numbers: those of the grammar, unless their value lies half
a step or more beyond the largest floating point number, and as integers those without a point and
an exponent whose value has 64 bits.
-/

import Formwork.Proofs.Number.Grammar
import Mathlib.Algebra.Order.Field.Power
import Mathlib.Algebra.Order.Field.Rat
import Mathlib.Tactic.Linarith
import Mathlib.Tactic.Ring

namespace Formwork

namespace Magnitude

/-- A fraction is rounded to less than an even bound exactly if it is less than half a step away
from the whole number before the bound. -/
theorem roundFraction_lt_iff {numerator denominator bound : Nat} (positive : 0 < denominator)
    (even : bound % 2 = 0) (nonzero : 0 < bound) :
    roundFraction numerator denominator < bound ↔
      2 * numerator < (2 * bound - 1) * denominator := by
  have whole := Nat.div_add_mod numerator denominator
  have rest := Nat.mod_lt numerator positive
  have atLeast := quotient_le_roundFraction numerator denominator
  have atMost := roundFraction_le numerator denominator
  obtain ⟨below, rfl⟩ : ∃ below, bound = below + 1 := Nat.exists_eq_add_one.mpr nonzero
  have doubled : (2 * (below + 1) - 1) * denominator = 2 * (denominator * below) + denominator := by
    rw [Nat.mul_add, Nat.mul_one, Nat.add_sub_assoc (by decide), Nat.add_mul, Nat.mul_assoc,
      Nat.mul_comm below]
    omega
  rw [doubled]
  rcases Nat.lt_trichotomy (numerator / denominator) below with less | same | more
  · have step := Nat.mul_le_mul_left denominator (Nat.succ_le_of_lt less)
    rw [Nat.mul_succ] at step
    exact iff_of_true (by omega) (by omega)
  · -- a rest of one half goes to the even bound
    rw [roundFraction, same]
    rw [same] at whole
    split
    · omega
    · split
      · omega
      · split <;> omega
  · have step := Nat.mul_le_mul_left denominator (Nat.succ_le_of_lt more)
    rw [Nat.mul_succ] at step
    exact iff_of_false (by omega) (by omega)

theorem isSome_ofFraction?_of_shiftFor (numerator denominator : Nat) :
    (ofFraction? numerator denominator).isSome = true ↔
      shiftFor numerator denominator < 2045 ∨ shiftFor numerator denominator = 2045 ∧
        significandFor numerator denominator < 1 <<< 53 := by
  rw [ofFraction?]
  split
  · rename_i fits
    split
    · rename_i inRange
      exact iff_of_true rfl (by omega)
    · rename_i outOfRange
      exact iff_of_false Bool.false_ne_true (by omega)
  · rename_i rounded
    split
    · rename_i inRange
      exact iff_of_true rfl (by omega)
    · rename_i outOfRange
      exact iff_of_false Bool.false_ne_true (by omega)

/-- There is a nearest number to a fraction exactly if it lies less than half a step beyond the
largest. -/
theorem isSome_ofFraction?_iff (zeros top : Nat) (units : Double.unitsPerOne = 1 <<< zeros)
    (range : top + zeros + 1 = 2045) {numerator denominator : Nat} (positive : 0 < denominator) :
    (ofFraction? numerator denominator).isSome = true ↔
      numerator < (2 ^ 54 - 1) * (2 ^ top * denominator) := by
  rw [Nat.one_shiftLeft] at units
  have someUnits := Nat.two_pow_pos zeros
  have someSteps := Nat.mul_pos (Nat.two_pow_pos top) positive
  have below (bits : Nat) : numerator * 2 ^ zeros / denominator < 2 ^ (bits + top + zeros) ↔
      numerator < 2 ^ bits * (2 ^ top * denominator) := by
    rw [Nat.div_lt_iff_lt_mul positive, Nat.pow_add, Nat.mul_right_comm,
      Nat.mul_lt_mul_right someUnits, Nat.pow_add, Nat.mul_assoc]
  have shift : shiftFor numerator denominator =
      (numerator * 2 ^ zeros / denominator).log2 - 52 := by rw [shiftFor, units]
  rw [isSome_ofFraction?_of_shiftFor]
  rcases Nat.lt_trichotomy (shiftFor numerator denominator) 2045 with small | last | large
  · have fits : numerator < 2 ^ 53 * (2 ^ top * denominator) := by
      rw [← below]
      apply Nat.lt_of_lt_of_le Nat.lt_log2_self
      exact Nat.pow_le_pow_right (by decide) (by omega)
    exact iff_of_true (.inl small) (by omega)
  · have shifted : denominator <<< 2045 = 2 ^ top * denominator * (2 * 2 ^ zeros) := by
      rw [Nat.shiftLeft_eq, ← range, Nat.pow_succ, Nat.pow_add]
      ring
    have somePlaces : 0 < 2 * 2 ^ zeros := Nat.mul_pos (by decide) someUnits
    have bound : 2 * 1 <<< 53 - 1 = 2 ^ 54 - 1 := by decide
    rw [or_iff_right (by omega), and_iff_right last, significandFor, last, units, shifted,
      roundFraction_lt_iff (Nat.mul_pos someSteps somePlaces) rfl (by decide), bound,
      Nat.mul_left_comm, ← Nat.mul_assoc (2 ^ 54 - 1), Nat.mul_lt_mul_right somePlaces]
  · have exceeds : ¬ numerator < 2 ^ 54 * (2 ^ top * denominator) := by
      rw [← below, Nat.not_lt]
      have nonzero : numerator * 2 ^ zeros / denominator ≠ 0 := by
        intro isZero
        rw [shift, isZero] at large
        exact absurd large (by decide)
      refine Nat.le_trans (Nat.pow_le_pow_right (by decide) ?_) (Nat.log2_self_le nonzero)
      omega
    exact iff_of_false (by omega) (by omega)

/-- Half a step beyond the largest floating point number, which is `(2 ^ 53 - 1) * 2 ^ 971`. -/
def limit : ℚ :=
  (2 ^ 54 - 1) * 2 ^ 970

theorem isSome_ofFraction?_iff_lt_limit {numerator denominator : Nat} (positive : 0 < denominator) :
    (ofFraction? numerator denominator).isSome = true ↔ (numerator : ℚ) / denominator < limit := by
  have whole : ((2 ^ 54 - 1 : ℕ) : ℚ) = 2 ^ 54 - 1 := by norm_num
  have step : ((2 ^ 970 : ℕ) : ℚ) = 2 ^ 970 := Nat.cast_pow 2 970
  rw [isSome_ofFraction?_iff 1074 970 rfl rfl positive, limit,
    div_lt_iff₀ (by exact_mod_cast positive), ← Nat.cast_lt (α := ℚ), Nat.cast_mul, Nat.cast_mul,
    whole, step, mul_assoc]

theorem one_lt_limit : 1 < limit := by
  have step : (1 : ℚ) ≤ 2 ^ 970 := one_le_pow₀ (by norm_num)
  calc
    (1 : ℚ) < 2 ^ 54 - 1 := by norm_num
    _ ≤ limit := le_mul_of_one_le_right (by norm_num) step

theorem limit_lt : limit < 2 ^ 1024 := by
  have step : (0 : ℚ) < 2 ^ 970 := by positivity
  have whole : (2 : ℚ) ^ 1024 = 2 ^ 54 * 2 ^ 970 := by rw [← pow_add]
  rw [limit, whole]
  exact mul_lt_mul_of_pos_right (by norm_num) step

/-- Powers of ten that are not computed lead beyond the limit. -/
theorem limit_lt_of_large {digits : Nat} {exponent : Int} (nonzero : digits ≠ 0)
    (large : 400 < exponent) : limit < digits * 10 ^ exponent := by
  have whole : (1 : ℚ) ≤ digits := by exact_mod_cast Nat.one_le_iff_ne_zero.mpr nonzero
  calc
    limit < 2 ^ 1024 := limit_lt
    _ ≤ (2 ^ 3) ^ 400 := by
      rw [← pow_mul]
      exact pow_le_pow_right₀ (by norm_num) (by norm_num)
    _ ≤ 10 ^ 400 := pow_le_pow_left₀ (by norm_num) (by norm_num) 400
    _ = 10 ^ (400 : ℤ) := (zpow_natCast 10 400).symm
    _ ≤ 10 ^ exponent := zpow_le_zpow_right₀ (by norm_num) large.le
    _ ≤ digits * 10 ^ exponent := le_mul_of_one_le_left (by positivity) whole

/-- Powers of ten that are not computed lead close to zero. -/
theorem lt_limit_of_small {digits : Nat} {exponent : Int}
    (small : exponent < -(digits.log2 + 401 : Int)) : digits * 10 ^ exponent < limit := by
  have bits : (digits : ℚ) ≤ 10 ^ (digits.log2 + 1) := by
    have fits : digits ≤ 10 ^ (digits.log2 + 1) :=
      Nat.lt_log2_self.le.trans (Nat.pow_le_pow_left (by decide) _)
    exact_mod_cast fits
  calc
    (digits : ℚ) * 10 ^ exponent ≤ 10 ^ (digits.log2 + 1) * 10 ^ (-(digits.log2 + 1 : ℤ)) := by
      gcongr
      · norm_num
      · omega
    _ = 1 := by
      rw [zpow_neg, ← Nat.cast_add_one, zpow_natCast, mul_inv_cancel₀ (by positivity)]
    _ < limit := one_lt_limit

/-- There is a nearest number to digits at a power of ten exactly if they lie less than half a step
beyond the largest. -/
theorem isSome_ofDecimal?_iff (digits : Nat) (exponent : Int) :
    (ofDecimal? digits exponent).isSome = true ↔ (digits : ℚ) * 10 ^ exponent < limit := by
  rw [ofDecimal?]
  split
  · rename_i isZero
    rw [isZero, Nat.cast_zero, zero_mul]
    exact iff_of_true rfl (zero_lt_one.trans one_lt_limit)
  rename_i nonzero
  split
  · rename_i large
    exact iff_of_false Bool.false_ne_true (limit_lt_of_large nonzero large).not_gt
  split
  · rename_i small
    exact iff_of_true rfl (lt_limit_of_small small)
  split
  · rename_i whole
    obtain ⟨power, rfl⟩ := Int.eq_ofNat_of_zero_le whole
    rw [isSome_ofFraction?_iff_lt_limit Nat.one_pos, Int.toNat_natCast, zpow_natCast]
    simp
  · rename_i negative
    obtain ⟨power, isPower⟩ := Int.eq_ofNat_of_zero_le (neg_nonneg.mpr (not_le.mp negative).le)
    have positive : 0 < Nat.pow 10 power := Nat.pow_pos (by decide)
    rw [isPower, Int.toNat_natCast, isSome_ofFraction?_iff_lt_limit positive, ← neg_neg exponent,
      isPower, zpow_neg, zpow_natCast, div_eq_mul_inv]
    simp

end Magnitude

namespace Numeral

/-- The exact value. -/
def value (numeral : Numeral) : ℚ :=
  (if numeral.negative then -1 else 1) * (numeral.digits * 10 ^ numeral.exponent)

theorem abs_value (numeral : Numeral) :
    |numeral.value| = numeral.digits * 10 ^ numeral.exponent := by
  have sign : |if numeral.negative then (-1 : ℚ) else 1| = 1 := by
    split
    · rw [abs_neg, abs_one]
    · exact abs_one
  rw [value, abs_mul, sign, one_mul, abs_of_nonneg (by positivity)]

theorem isSome_nearest?_iff (numeral : Numeral) :
    numeral.nearest?.isSome = true ↔ |numeral.value| < Magnitude.limit := by
  rw [nearest?, Option.isSome_map, Magnitude.isSome_ofDecimal?_iff, abs_value]

theorem value_whole (negative : Bool) (digits : Nat) :
    value ⟨negative, digits, 0⟩ = (if negative then -(digits : Int) else digits : Int) := by
  cases negative <;> simp [value]

theorem IsSign.not_mem {sign : List Char} {negative : Bool} (isSign : IsSign sign negative)
    {c : Char} (noSign : c ≠ '+' ∧ c ≠ '-') : c ∉ sign := by
  cases isSign with
  | missing => exact List.not_mem_nil
  | plus => exact fun member => noSign.1 (List.mem_singleton.mp member)
  | minus => exact fun member => noSign.2 (List.mem_singleton.mp member)

/-- The text of a whole number is a numeral without a point and without an exponent. -/
theorem writes_iff_spells {cs : List Char} {whole : Int} :
    Writes cs whole ↔ (∃ numeral, Spells cs numeral ∧ numeral.value = whole) ∧
      '.' ∉ cs ∧ 'e' ∉ cs ∧ 'E' ∉ cs := by
  rw [writes_iff_signed]
  constructor
  · rintro ⟨sign, negative, digits, isSign, isDigits, rfl, rfl⟩
    have spells := Spells.intro isSign (.whole isDigits) .missing
    rw [List.append_nil] at spells
    have free : ∀ c : Char, c ≠ '+' ∧ c ≠ '-' → c.isDigit = false → c ∉ sign ++ digits := by
      intro c noSign noDigit member
      rcases List.mem_append.mp member with inSign | inDigits
      · exact isSign.not_mem noSign inSign
      · rw [isDigit_of_allDigits isDigits c inDigits] at noDigit
        cases noDigit
    exact ⟨⟨_, spells, value_whole negative _⟩, free '.' (by decide) rfl, free 'e' (by decide) rfl,
      free 'E' (by decide) rfl⟩
  · rintro ⟨⟨numeral, spells, isWhole⟩, noPoint, noLower, noUpper⟩
    obtain @⟨sign, mantissa, exponent, negative, digits, places, power, isSign, isMantissa,
      isExponent⟩ := spells
    cases isExponent with
    | power isLetter writes =>
        rcases isLetter with rfl | rfl
        · exact absurd (by simp) noLower
        · exact absurd (by simp) noUpper
    | missing =>
    cases isMantissa with
    | pointed isDigits isFraction => exact absurd (by simp) noPoint
    | fraction isDigits => exact absurd (by simp) noPoint
    | whole isDigits =>
        refine ⟨sign, negative, mantissa, isSign, isDigits, by rw [List.append_nil], ?_⟩
        exact (Int.cast_injective ((value_whole negative _).symm.trans isWhole)).symm

theorem IsWord.lt_limit {whole : Int} (isWord : IsWord whole) :
    |(whole : ℚ)| < Magnitude.limit := by
  have bounded : |whole| ≤ 2 ^ 63 := abs_le.mpr ⟨isWord.1, isWord.2.trans (by decide)⟩
  have step : (0 : ℚ) < 2 ^ 970 := by positivity
  calc
    |(whole : ℚ)| ≤ 2 ^ 63 := by exact_mod_cast bounded
    _ ≤ 2 ^ 970 := pow_le_pow_right₀ (by norm_num) (by norm_num)
    _ < Magnitude.limit := lt_mul_of_one_lt_left step (by norm_num)

end Numeral

namespace Number

theorem exists_read?_iff (cs : List Char) :
    (∃ number, read? cs = some number) ↔
      ∃ numeral, Numeral.Spells (Text.trim cs) numeral ∧ |numeral.value| < Magnitude.limit := by
  rw [read?]
  cases isInteger : Numeral.integer? (Text.trim cs) with
  | some whole =>
      obtain ⟨writes, isWord⟩ := Numeral.integer?_eq_some_iff.mp isInteger
      obtain ⟨⟨numeral, spells, isWhole⟩, -⟩ := Numeral.writes_iff_spells.mp writes
      exact iff_of_true ⟨_, rfl⟩ ⟨numeral, spells, isWhole ▸ isWord.lt_limit⟩
  | none =>
      constructor
      · rintro ⟨number, read⟩
        obtain ⟨double, isDouble, rfl⟩ := Option.map_eq_some_iff.mp read
        obtain ⟨numeral, spelled, nearest⟩ := Option.bind_eq_some_iff.mp isDouble
        refine ⟨numeral, Numeral.read?_eq_some_iff.mp spelled, numeral.isSome_nearest?_iff.mp ?_⟩
        rw [nearest, Option.isSome_some]
      · rintro ⟨numeral, spells, inRange⟩
        obtain ⟨double, nearest⟩ :=
          Option.isSome_iff_exists.mp (numeral.isSome_nearest?_iff.mpr inRange)
        rw [Numeral.read?_eq_some_iff.mpr spells, Option.bind_some, nearest]
        exact ⟨_, rfl⟩

/-- The grammar is read as numbers, up to half a step beyond the largest. What has neither a point
nor an exponent is read as the integer that it spells, if this has 64 bits. -/
theorem read?_of_grammar (cs : List Char) :
    ((∃ number, read? cs = some number) ↔
      ∃ numeral, Numeral.Spells (Text.trim cs) numeral ∧ |numeral.value| < Magnitude.limit) ∧
    ∀ whole, read? cs = some (.int whole) ↔
      Numeral.IsWord whole ∧
        (∃ numeral, Numeral.Spells (Text.trim cs) numeral ∧ numeral.value = whole) ∧
        '.' ∉ Text.trim cs ∧ 'e' ∉ Text.trim cs ∧ 'E' ∉ Text.trim cs := by
  refine ⟨exists_read?_iff cs, fun whole => ?_⟩
  rw [read?_eq_int_iff, and_comm, Numeral.writes_iff_spells]

/-- Words, other notations of numbers and parts of numerals are not read, nor what rounds to
infinity. -/
example : ∀ text ∈ ["inf", "NaN", "0x1F", "1_000", "", "+", ".", "1e", ".e1", "1.8e308"],
    read? text.toList = none := by
  decide +kernel

end Number

end Formwork
