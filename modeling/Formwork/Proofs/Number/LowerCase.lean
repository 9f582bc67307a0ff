/-
This file shows that a text stands for the same number in lower case, whatever stands around it.
-/

import Formwork.Proofs.Number.Grammar
import Formwork.Proofs.Text.Caseless

namespace Formwork

namespace Numeral

open Text (lowerChar)

/-- A character without letter case begins the lower case of no text that it does not begin. -/
theorem flatMap_ne_cons {d : Char} (unreached : Text.isLowering d.toNat = false) {cs : List Char}
    (differs : ∀ rest, cs ≠ d :: rest) : ∀ rest, cs.flatMap lowerChar ≠ d :: rest := by
  cases cs with
  | nil => nofun
  | cons c others =>
      intro rest starts
      obtain ⟨first, following, written⟩ := List.exists_cons_of_ne_nil (Text.lowerChar_ne_nil c)
      rw [List.flatMap_cons, written] at starts
      cases starts
      have same := Text.eq_of_mem_lowerChar (written ▸ List.mem_cons_self) unreached
      exact differs others (by rw [same])

theorem takeSign_flatMap (cs : List Char) :
    takeSign (cs.flatMap lowerChar) = ((takeSign cs).1, (takeSign cs).2.flatMap lowerChar) := by
  fun_cases takeSign cs with
  | case1 rest => rfl
  | case2 rest => rfl
  | case3 cs noMinus noPlus =>
      rw [takeSign]
      · exact flatMap_ne_cons (by decide +kernel) noMinus
      · exact flatMap_ne_cons (by decide +kernel) noPlus

theorem takeFraction_flatMap (cs : List Char) :
    takeFraction (cs.flatMap lowerChar) =
      ((takeFraction cs).1, (takeFraction cs).2.flatMap lowerChar) := by
  fun_cases takeFraction cs with
  | case1 rest =>
      obtain ⟨taken, dropped⟩ := Text.isCaseless_isDigit.span_lowerChar rest
      exact congrArg₂ Prod.mk taken dropped
  | case2 cs noPoint =>
      rw [takeFraction]
      exact flatMap_ne_cons (by decide +kernel) noPoint

theorem flatMap_of_isDigit {digits : List Char} (isDigit : ∀ c ∈ digits, c.isDigit = true) :
    digits.flatMap lowerChar = digits := by
  induction digits with
  | nil => rfl
  | cons c rest inductionHypothesis =>
      rw [List.forall_mem_cons] at isDigit
      rw [List.flatMap_cons, (Text.isCaseless_isDigit c isDigit.1).1, inductionHypothesis isDigit.2]
      rfl

/-- Digits are written as they are, and nothing else is digits in lower case. -/
theorem allDigits_flatMap (cs : List Char) : allDigits (cs.flatMap lowerChar) = allDigits cs := by
  rw [Bool.eq_iff_iff]
  constructor
  · intro isDigits
    refine allDigits_of_ne_nil ?_ fun c member => ?_
    · rintro rfl
      cases isDigits
    · obtain ⟨d, written⟩ := List.exists_mem_of_ne_nil _ (Text.lowerChar_ne_nil c)
      rw [← Text.isCaseless_isDigit.of_mem_lowerChar written]
      exact isDigit_of_allDigits isDigits d (List.mem_flatMap.mpr ⟨c, member, written⟩)
  · intro isDigits
    rwa [flatMap_of_isDigit (isDigit_of_allDigits isDigits)]

theorem writes_flatMap_iff (cs : List Char) (whole : Int) :
    Writes (cs.flatMap lowerChar) whole ↔ Writes cs whole := by
  rw [writes_iff, writes_iff, takeSign_flatMap, allDigits_flatMap]
  refine and_congr_right fun isDigits => ?_
  rw [flatMap_of_isDigit (isDigit_of_allDigits isDigits)]

theorem integer?_flatMap (cs : List Char) : integer? (cs.flatMap lowerChar) = integer? cs := by
  apply Option.ext
  intro whole
  rw [integer?_eq_some_iff, integer?_eq_some_iff, writes_flatMap_iff]

theorem exponentDigits?_flatMap (cs : List Char) :
    exponentDigits? (cs.flatMap lowerChar) = exponentDigits? cs := by
  apply Option.ext
  intro power
  rw [exponentDigits?_eq_some_iff, exponentDigits?_eq_some_iff, writes_flatMap_iff]

/-- Both letters of exponents are read, and no other is one of them in lower case. -/
theorem eq_letter_of_mem_lowerChar {c : Char} (member : 'e' ∈ lowerChar c) : c = 'e' ∨ c = 'E' := by
  have each : ∀ point < 0x80, 'e' = (Char.ofNat point).toLower →
      Char.ofNat point = 'e' ∨ Char.ofNat point = 'E' := by decide +kernel
  rcases Text.ascii_of_mem_lowerChar member (by decide) with ⟨ascii, lower⟩ | ⟨-, isI⟩ | ⟨-, isK⟩
  · rw [← Char.ofNat_toNat c] at lower ⊢
    exact each c.toNat ascii lower
  · exact absurd isI (by decide)
  · exact absurd isK (by decide)

theorem exponent?_flatMap (cs : List Char) :
    exponent? (cs.flatMap lowerChar) = exponent? cs := by
  fun_cases exponent? cs with
  | case1 => rfl
  | case2 rest => exact exponentDigits?_flatMap rest
  | case3 rest => exact exponentDigits?_flatMap rest
  | case4 cs nonempty noLower noUpper =>
      obtain ⟨c, others, rfl⟩ := List.exists_cons_of_ne_nil nonempty
      obtain ⟨first, following, written⟩ := List.exists_cons_of_ne_nil (Text.lowerChar_ne_nil c)
      rw [exponent?]
      · simp [written]
      · intro rest starts
        rw [List.flatMap_cons, written] at starts
        cases starts
        rcases eq_letter_of_mem_lowerChar (written ▸ List.mem_cons_self) with rfl | rfl
        · exact noLower others rfl
        · exact noUpper others rfl
      · exact flatMap_ne_cons (by decide +kernel) noUpper

theorem read?_flatMap (cs : List Char) : read? (cs.flatMap lowerChar) = read? cs := by
  obtain ⟨taken, dropped⟩ := Text.isCaseless_isDigit.span_lowerChar (takeSign cs).2
  simp only [read?, takeSign_flatMap, taken, dropped, takeFraction_flatMap, exponent?_flatMap]

/-! Characters of numerals. -/

theorem ascii_of_isDigit {digits : List Char} (isDigit : ∀ c ∈ digits, c.isDigit = true) :
    ∀ c ∈ digits, c.toNat < 0x80 :=
  fun c member => Nat.lt_of_le_of_lt (Document.toNat_of_isDigit (isDigit c member)).2 (by decide)

theorem IsSign.ascii {sign : List Char} {negative : Bool} (isSign : IsSign sign negative) :
    ∀ c ∈ sign, c.toNat < 0x80 := by
  cases isSign <;> simp

theorem IsMantissa.ascii {mantissa : List Char} {digits places : Nat}
    (isMantissa : IsMantissa mantissa digits places) : ∀ c ∈ mantissa, c.toNat < 0x80 := by
  cases isMantissa with
  | whole isDigits => exact ascii_of_isDigit (isDigit_of_allDigits isDigits)
  | pointed isDigits isFraction =>
      exact List.forall_mem_append.mpr ⟨ascii_of_isDigit (isDigit_of_allDigits isDigits),
        List.forall_mem_cons.mpr ⟨by decide, ascii_of_isDigit isFraction⟩⟩
  | fraction isDigits =>
      exact List.forall_mem_cons.mpr
        ⟨by decide, ascii_of_isDigit (isDigit_of_allDigits isDigits)⟩

theorem IsExponent.ascii {exponent : List Char} {power : Int}
    (isExponent : IsExponent exponent power) : ∀ c ∈ exponent, c.toNat < 0x80 := by
  cases isExponent with
  | missing => exact List.forall_mem_nil _
  | power isLetter writes =>
      obtain ⟨sign, negative, digits, isSign, isDigits, rfl, -⟩ := writes_iff_signed.mp writes
      refine List.forall_mem_cons.mpr ⟨by rcases isLetter with rfl | rfl <;> decide, ?_⟩
      exact List.forall_mem_append.mpr
        ⟨isSign.ascii, ascii_of_isDigit (isDigit_of_allDigits isDigits)⟩

theorem Spells.ascii {cs : List Char} {numeral : Numeral} (spells : Spells cs numeral) :
    ∀ c ∈ cs, c.toNat < 0x80 := by
  obtain ⟨isSign, isMantissa, isExponent⟩ := spells
  exact List.forall_mem_append.mpr
    ⟨isSign.ascii, List.forall_mem_append.mpr ⟨isMantissa.ascii, isExponent.ascii⟩⟩

end Numeral

namespace Number

theorem read?_flatMap (cs : List Char) : read? (cs.flatMap Text.lowerChar) = read? cs := by
  rw [read?, read?, Text.trim_flatMap_lowerChar, Numeral.integer?_flatMap, Numeral.read?_flatMap]

/-- What is no character of ASCII and no white space stands in no number. -/
theorem read?_eq_none_of_mem {cs : List Char} {c : Char} (member : c ∈ cs)
    (visible : Text.isBlank c = false) (notAscii : 0x80 ≤ c.toNat) : read? cs = none := by
  refine Option.eq_none_iff_forall_ne_some.mpr fun number read => ?_
  obtain ⟨numeral, spells⟩ := exists_spells read
  exact Nat.not_lt.mpr notAscii (spells.ascii c (Text.mem_trim visible member))

/-- A text stands for the same number in lower case. -/
theorem read?_lowercaseBetween (before after cs : List Char) :
    read? (Text.lowercaseBetween before after cs) = read? cs := by
  by_cases member : 'Σ' ∈ cs
  · obtain ⟨d, written, isSigma⟩ := Text.exists_sigma_of_mem member before after
    rw [read?_eq_none_of_mem member (by decide) (by decide)]
    rcases isSigma with rfl | rfl <;> exact read?_eq_none_of_mem written (by decide) (by decide)
  · rw [Text.lowercaseBetween_of_not_mem member, read?_flatMap]

end Number

end Formwork
