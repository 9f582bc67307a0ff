/-
This file shows which whole numbers are read exactly: those of 64 bits, and beyond them those whose
bits fit into the significand of a floating point number.
-/

import Formwork.Number.Numeral
import Formwork.Proofs.Json.WrittenNumber
import Mathlib.Algebra.Group.Nat.Defs
import Mathlib.Data.List.TakeWhile

namespace Formwork

namespace Magnitude

theorem roundFraction_le (numerator denominator : Nat) :
    roundFraction numerator denominator ≤ numerator / denominator + 1 := by
  rw [roundFraction]
  split
  · exact Nat.le_succ _
  · split
    · exact Nat.le_refl _
    · split
      · exact Nat.le_succ _
      · exact Nat.le_refl _

/-- Rounding a fraction changes it, unless it is a whole number. -/
theorem roundFraction_mul_eq_iff {numerator denominator : Nat} (positive : 0 < denominator) :
    roundFraction numerator denominator * denominator = numerator ↔ denominator ∣ numerator := by
  constructor
  · exact fun exact => exact ▸ Nat.dvd_mul_left denominator _
  · intro divides
    have noRest : numerator % denominator = 0 := Nat.mod_eq_zero_of_dvd divides
    rw [roundFraction, noRest, if_pos (by simpa using positive), Nat.div_mul_cancel divides]

/-- A fraction is cut where at most 53 bits are left. -/
theorem significandFor_le (numerator denominator : Nat) :
    significandFor numerator denominator ≤ 1 <<< 53 := by
  apply Nat.le_trans (roundFraction_le _ _)
  rw [Nat.shiftLeft_eq, Nat.shiftLeft_eq, Nat.one_mul, ← Nat.div_div_eq_div_mul]
  generalize quotientEq : numerator * Double.unitsPerOne / denominator = quotient
  have shiftEq : shiftFor numerator denominator = quotient.log2 - 52 := by
    rw [shiftFor, quotientEq]
  rw [shiftEq, Nat.add_one_le_iff, Nat.div_lt_iff_lt_mul (Nat.two_pow_pos _), ← Nat.pow_add]
  apply Nat.lt_of_lt_of_le (Nat.lt_log2_self (n := quotient))
  exact Nat.pow_le_pow_right (by decide) (by omega)

/-- The nearest number has the significand and the power of two of the fraction. A significand that
is rounded up to 54 bits is even. -/
theorem units_of_ofFraction? {numerator denominator : Nat} {value : Magnitude}
    (found : ofFraction? numerator denominator = some value) :
    value.units =
      significandFor numerator denominator * 2 ^ shiftFor numerator denominator := by
  rw [ofFraction?] at found
  split at found
  · split at found
    · cases found
      rw [units, Nat.shiftLeft_eq]
    · cases found
  · rename_i rounded
    split at found
    · cases found
      have full : significandFor numerator denominator = 1 <<< 53 :=
        Nat.le_antisymm (significandFor_le _ _) (Nat.le_of_not_lt rounded)
      rw [units, full, Nat.shiftLeft_eq]
      calc
        1 <<< 52 * 2 ^ (shiftFor numerator denominator + 1) =
            1 <<< 52 * (2 * 2 ^ shiftFor numerator denominator) := by rw [Nat.pow_succ']
        _ = 1 <<< 53 * 2 ^ shiftFor numerator denominator := (Nat.mul_assoc _ _ _).symm
    · cases found

/-- Whether the bits of a whole number, from its first to its last one, fit into a significand. -/
def Holds (whole : Nat) : Prop :=
  ∃ significand shift, significand < 2 ^ 53 ∧ whole = significand * 2 ^ shift

theorem holds_iff (whole : Nat) : Holds whole ↔ 2 ^ (whole.log2 - 52) ∣ whole := by
  constructor
  · rintro ⟨significand, shift, fits, rfl⟩
    refine Nat.dvd_trans (Nat.pow_dvd_pow 2 ?_) (Nat.dvd_mul_left _ significand)
    by_cases isZero : significand * 2 ^ shift = 0
    · rw [isZero, Nat.log2_zero]
      omega
    · have bounded : significand * 2 ^ shift < 2 ^ (53 + shift) := by
        rw [Nat.pow_add]
        exact Nat.mul_lt_mul_of_pos_right fits (Nat.two_pow_pos shift)
      have fewBits := (Nat.log2_lt isZero).mpr bounded
      omega
  · rintro ⟨significand, whole_eq⟩
    refine ⟨significand, whole.log2 - 52, ?_, by rw [Nat.mul_comm, ← whole_eq]⟩
    apply Nat.lt_of_mul_lt_mul_left (a := 2 ^ (whole.log2 - 52))
    rw [← whole_eq, ← Nat.pow_add]
    apply Nat.lt_of_lt_of_le (Nat.lt_log2_self (n := whole))
    exact Nat.pow_le_pow_right (by decide) (by omega)

instance : DecidablePred Holds :=
  fun whole => decidable_of_iff _ (holds_iff whole).symm

theorem log2_mul_two_pow {whole : Nat} (nonzero : whole ≠ 0) (shift : Nat) :
    (whole * 2 ^ shift).log2 = whole.log2 + shift := by
  have product : whole * 2 ^ shift ≠ 0 :=
    Nat.mul_ne_zero nonzero (Nat.ne_of_gt (Nat.two_pow_pos shift))
  rw [Nat.log2_eq_iff product, Nat.add_right_comm, Nat.pow_add, Nat.pow_add]
  exact ⟨Nat.mul_le_mul_right _ (Nat.log2_self_le nonzero),
    Nat.mul_lt_mul_of_pos_right Nat.lt_log2_self (Nat.two_pow_pos shift)⟩

/-- Zeros behind the bits of a whole number are cut off without a loss. -/
theorem dvd_mul_two_pow_iff (whole : Nat) {shift : Nat} (wide : 52 ≤ shift) :
    2 ^ (whole.log2 + shift - 52) ∣ whole * 2 ^ shift ↔ 2 ^ (whole.log2 - 52) ∣ whole := by
  by_cases long : 52 ≤ whole.log2
  · have shifted : whole.log2 + shift - 52 = whole.log2 - 52 + shift := by omega
    rw [shifted, Nat.pow_add]
    exact Nat.mul_dvd_mul_iff_right (Nat.two_pow_pos shift)
  · have unshifted : whole.log2 - 52 = 0 := by omega
    rw [unshifted, Nat.pow_zero]
    exact iff_of_true (Nat.dvd_mul_left_of_dvd (Nat.pow_dvd_pow 2 (by omega)) whole)
      (Nat.one_dvd whole)

/-- The number nearest to a whole number is this number exactly if a significand holds it. -/
theorem units_of_ofDecimal? {whole : Nat} {value : Magnitude}
    (found : ofDecimal? whole 0 = some value) :
    value.units = whole * Double.unitsPerOne ↔ Holds whole := by
  rw [ofDecimal?] at found
  split at found
  · rename_i isZero
    cases found
    subst isZero
    exact iff_of_true (by rw [Nat.zero_mul]; rfl) ⟨0, 0, by decide, rfl⟩
  · rename_i nonzero
    rw [if_neg (by decide), if_neg (by omega), if_pos (by decide)] at found
    have isNearest : ofFraction? whole 1 = some value := by simpa using found
    obtain ⟨zeros, shifted, wide⟩ : ∃ zeros, Double.unitsPerOne = 1 <<< zeros ∧ 52 ≤ zeros :=
      ⟨1074, rfl, by decide⟩
    rw [units_of_ofFraction? isNearest, significandFor, Nat.one_shiftLeft,
      roundFraction_mul_eq_iff (Nat.two_pow_pos _), shiftFor, Nat.div_one, shifted,
      Nat.one_shiftLeft, log2_mul_two_pow nonzero, dvd_mul_two_pow_iff whole wide, holds_iff]

end Magnitude

theorem Text.isBlank_of_isDigit {c : Char} (isDigit : c.isDigit = true) :
    isBlank c = false := by
  have bounds := Document.toNat_of_isDigit isDigit
  rw [isBlank]
  grind

namespace Numeral

/-- The text of a whole number: digits, and a sign before them that may be missing. -/
inductive Writes : List Char → Int → Prop
  | unsigned {digits : List Char} (isDigits : allDigits digits = true) :
      Writes digits (Nat.ofDigitChars 10 digits 0)
  | plus {digits : List Char} (isDigits : allDigits digits = true) :
      Writes ('+' :: digits) (Nat.ofDigitChars 10 digits 0)
  | minus {digits : List Char} (isDigits : allDigits digits = true) :
      Writes ('-' :: digits) (-(Nat.ofDigitChars 10 digits 0 : Int))

/-- A whole number of 64 bits, one of them for the sign. -/
def IsWord (whole : Int) : Prop :=
  -0x8000000000000000 ≤ whole ∧ whole ≤ 0x7fffffffffffffff

instance : DecidablePred IsWord :=
  fun _ => inferInstanceAs (Decidable (_ ∧ _))

theorem isDigit_of_allDigits {digits : List Char} (isDigits : allDigits digits = true) :
    ∀ c ∈ digits, c.isDigit = true := by
  rw [allDigits, Bool.and_eq_true, List.all_eq_true] at isDigits
  exact isDigits.2

theorem takeSign_of_isDigit {digits : List Char} (isDigit : ∀ c ∈ digits, c.isDigit = true) :
    takeSign digits = (false, digits) := by
  unfold takeSign
  split
  · exact absurd (isDigit '-' List.mem_cons_self) (by decide)
  · exact absurd (isDigit '+' List.mem_cons_self) (by decide)
  · rfl

/-- The text of a whole number is digits behind a sign, and the number is what they count. -/
theorem writes_iff (cs : List Char) (whole : Int) :
    Writes cs whole ↔ allDigits (takeSign cs).2 = true ∧
      whole = if (takeSign cs).1 then -(digitsValue (takeSign cs).2 : Int)
        else digitsValue (takeSign cs).2 := by
  constructor
  · intro writes
    cases writes with
    | unsigned isDigits =>
        rw [takeSign_of_isDigit (isDigit_of_allDigits isDigits)]
        exact ⟨isDigits, rfl⟩
    | plus isDigits => exact ⟨isDigits, rfl⟩
    | minus isDigits => exact ⟨isDigits, rfl⟩
  · rintro ⟨isDigits, rfl⟩
    unfold takeSign at isDigits ⊢
    split at isDigits
    · exact .minus isDigits
    · exact .plus isDigits
    · exact .unsigned isDigits

instance (cs : List Char) (whole : Int) : Decidable (Writes cs whole) :=
  decidable_of_iff _ (writes_iff cs whole).symm

/-- The text of a whole number is read as an integer exactly if the number has 64 bits. -/
theorem Writes.integer?_eq {cs : List Char} {whole : Int} (writes : Writes cs whole) :
    integer? cs = if IsWord whole then some whole else none := by
  obtain ⟨isDigits, rfl⟩ := (writes_iff cs whole).mp writes
  rw [integer?]
  exact if_pos isDigits

theorem integer?_eq_some_iff {cs : List Char} {whole : Int} :
    integer? cs = some whole ↔ Writes cs whole ∧ IsWord whole := by
  constructor
  · intro read
    by_cases isDigits : allDigits (takeSign cs).2 = true
    · have writes := (writes_iff cs _).mpr ⟨isDigits, rfl⟩
      rw [writes.integer?_eq, Option.ite_none_right_eq_some] at read
      obtain ⟨isWord, same⟩ := read
      cases same
      exact ⟨writes, isWord⟩
    · rw [integer?] at read
      cases (if_neg isDigits).symm.trans read
  · rintro ⟨writes, isWord⟩
    rw [writes.integer?_eq, if_pos isWord]

/-- As a numeral it has neither a fraction nor an exponent. -/
theorem Writes.read?_eq {cs : List Char} {whole : Int} (writes : Writes cs whole) :
    ∃ negative, read? cs = some ⟨negative, whole.natAbs, 0⟩ ∧
      whole = if negative then -(whole.natAbs : Int) else whole.natAbs := by
  obtain ⟨isDigits, rfl⟩ := (writes_iff cs whole).mp writes
  rw [read?]
  generalize takeSign cs = signed at isDigits ⊢
  obtain ⟨negative, digits⟩ := signed
  have isDigit := isDigit_of_allDigits isDigits
  have taken : digits.takeWhile Char.isDigit = digits := List.takeWhile_eq_self_iff.mpr isDigit
  have dropped : digits.dropWhile Char.isDigit = [] := List.dropWhile_eq_nil_iff.mpr isDigit
  have someDigit : digits.isEmpty = false := by
    rw [allDigits, Bool.and_eq_true] at isDigits
    simpa using isDigits.1
  have magnitude : (if negative then -(digitsValue digits : Int) else digitsValue digits).natAbs =
      digitsValue digits := by
    cases negative <;> simp
  refine ⟨negative, ?_, by rw [magnitude]⟩
  rw [magnitude]
  simp [taken, dropped, takeFraction, someDigit, exponent?]

/-- The text of a whole number has no white space around it. -/
theorem Writes.trim_eq {cs : List Char} {whole : Int} (writes : Writes cs whole) :
    Text.trim cs = cs := by
  have visibleDigits {digits : List Char} (isDigits : allDigits digits = true) :
      ∀ c ∈ digits, Text.isBlank c = false :=
    fun c member => Text.isBlank_of_isDigit (isDigit_of_allDigits isDigits c member)
  have visible : ∀ c ∈ cs, Text.isBlank c = false := by
    cases writes with
    | unsigned isDigits => exact visibleDigits isDigits
    | plus isDigits => exact List.forall_mem_cons.mpr ⟨by decide, visibleDigits isDigits⟩
    | minus isDigits => exact List.forall_mem_cons.mpr ⟨by decide, visibleDigits isDigits⟩
  exact Text.trim_eq_self (fun c isFirst => visible c (List.mem_of_head? isFirst))
    fun c isLast => visible c (List.mem_of_getLast? isLast)

end Numeral

namespace Double

/-- The exact value in units. -/
def units (value : Double) : Int :=
  if value.negative then -(value.magnitude.units : Int) else value.magnitude.units

end Double

namespace Number

/-- The value of the number is the whole number. -/
def Denotes : Number → Int → Prop
  | int value, whole => value = whole
  | float value, whole => value.units = whole * Double.unitsPerOne

instance : (number : Number) → (whole : Int) → Decidable (number.Denotes whole)
  | int _, _ => inferInstanceAs (Decidable (_ = _))
  | float _, _ => inferInstanceAs (Decidable (_ = _))

/-- What is read as an integer is the text of a whole number of 64 bits. -/
theorem read?_eq_int_iff {cs : List Char} {whole : Int} :
    read? cs = some (int whole) ↔ Numeral.Writes (Text.trim cs) whole ∧ Numeral.IsWord whole := by
  rw [← Numeral.integer?_eq_some_iff, read?]
  cases Numeral.integer? (Text.trim cs) with
  | some other => rw [Option.some_inj, Option.some_inj, int.injEq]
  | none =>
      refine iff_of_false (fun read => ?_) nofun
      obtain ⟨decimal, -, isInteger⟩ := Option.map_eq_some_iff.mp read
      cases isInteger

/-- A whole number is read exactly if it has 64 bits or a significand holds it. Any other is read as
another number, if as any. -/
theorem denotes_of_read? {cs : List Char} {whole : Int}
    (writes : Numeral.Writes (Text.trim cs) whole) {number : Number}
    (read : read? cs = some number) :
    number.Denotes whole ↔ Numeral.IsWord whole ∨ Magnitude.Holds whole.natAbs := by
  by_cases isWord : Numeral.IsWord whole
  · rw [read?_eq_int_iff.mpr ⟨writes, isWord⟩] at read
    cases read
    exact iff_of_true rfl (.inl isWord)
  · obtain ⟨negative, numeral, signed⟩ := writes.read?_eq
    rw [read?, writes.integer?_eq, if_neg isWord, numeral] at read
    simp only [Option.bind_some, Numeral.nearest?, Option.map_map, Option.map_eq_some_iff] at read
    obtain ⟨magnitude, nearest, rfl⟩ := read
    rw [or_iff_right isWord, ← Magnitude.units_of_ofDecimal? nearest]
    generalize whole.natAbs = absolute at signed
    subst signed
    cases negative with
    | true =>
        show -(magnitude.units : Int) = -absolute * Double.unitsPerOne ↔ _
        rw [Int.neg_mul, Int.neg_inj, ← Int.natCast_mul, Int.natCast_inj]
    | false =>
        show (magnitude.units : Int) = absolute * Double.unitsPerOne ↔ _
        rw [← Int.natCast_mul, Int.natCast_inj]

end Number

end Formwork
