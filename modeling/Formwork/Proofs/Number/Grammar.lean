/-
This file shows which texts are read as decimal numerals: those of a grammar, each as the numeral
that the grammar gives it.
-/

import Formwork.Proofs.Number.Whole
import Formwork.Text.Pieces

namespace Formwork

namespace Numeral

/-- A sign that may be missing, and whether it is a minus. -/
inductive IsSign : List Char → Bool → Prop
  | missing : IsSign [] false
  | plus : IsSign ['+'] false
  | minus : IsSign ['-'] true

/-- Digits with or without a point, what they count and how many of them stand behind the point. On
one side of the point there may be no digits. -/
inductive IsMantissa : List Char → Nat → Nat → Prop
  | whole {digits : List Char} (isDigits : allDigits digits = true) :
      IsMantissa digits (Nat.ofDigitChars 10 digits 0) 0
  | pointed {digits fraction : List Char} (isDigits : allDigits digits = true)
      (isFraction : ∀ c ∈ fraction, c.isDigit = true) :
      IsMantissa (digits ++ '.' :: fraction) (Nat.ofDigitChars 10 (digits ++ fraction) 0)
        fraction.length
  | fraction {digits : List Char} (isDigits : allDigits digits = true) :
      IsMantissa ('.' :: digits) (Nat.ofDigitChars 10 digits 0) digits.length

/-- The text of a whole number behind its letter, or nothing. -/
inductive IsExponent : List Char → Int → Prop
  | missing : IsExponent [] 0
  | power {letter : Char} {cs : List Char} {power : Int} (isLetter : letter = 'e' ∨ letter = 'E')
      (writes : Writes cs power) : IsExponent (letter :: cs) power

/-- The text of a numeral is a sign, digits with or without a point, and an exponent. -/
inductive Spells : List Char → Numeral → Prop
  | intro {sign mantissa exponent : List Char} {negative : Bool} {digits places : Nat} {power : Int}
      (isSign : IsSign sign negative) (isMantissa : IsMantissa mantissa digits places)
      (isExponent : IsExponent exponent power) :
      Spells (sign ++ (mantissa ++ exponent)) ⟨negative, digits, power - places⟩

/-! Signs. -/

/-- The first character is no sign. -/
def Unsigned (cs : List Char) : Prop :=
  ∀ c ∈ cs.head?, c ≠ '-' ∧ c ≠ '+'

theorem takeSign_of_unsigned {cs : List Char} (unsigned : Unsigned cs) :
    takeSign cs = (false, cs) := by
  unfold takeSign
  split
  · exact absurd rfl (unsigned '-' rfl).1
  · exact absurd rfl (unsigned '+' rfl).2
  · rfl

theorem IsSign.takeSign_append {sign : List Char} {negative : Bool} (isSign : IsSign sign negative)
    {cs : List Char} (unsigned : Unsigned cs) : takeSign (sign ++ cs) = (negative, cs) := by
  cases isSign with
  | missing => exact takeSign_of_unsigned unsigned
  | plus => rfl
  | minus => rfl

/-- A text is its sign and what is left of it. -/
theorem exists_isSign (cs : List Char) :
    ∃ sign, IsSign sign (takeSign cs).1 ∧ cs = sign ++ (takeSign cs).2 := by
  unfold takeSign
  split
  · exact ⟨['-'], .minus, rfl⟩
  · exact ⟨['+'], .plus, rfl⟩
  · exact ⟨[], .missing, rfl⟩

/-- The text of a whole number is a sign and digits. -/
theorem writes_iff_signed {cs : List Char} {whole : Int} :
    Writes cs whole ↔ ∃ sign negative digits, IsSign sign negative ∧ allDigits digits = true ∧
      cs = sign ++ digits ∧
      whole = if negative then -(digitsValue digits : Int) else digitsValue digits := by
  constructor
  · intro writes
    cases writes with
    | unsigned isDigits => exact ⟨[], false, cs, .missing, isDigits, rfl, rfl⟩
    | plus isDigits => exact ⟨['+'], false, _, .plus, isDigits, rfl, rfl⟩
    | minus isDigits => exact ⟨['-'], true, _, .minus, isDigits, rfl, rfl⟩
  · rintro ⟨sign, negative, digits, isSign, isDigits, rfl, rfl⟩
    cases isSign with
    | missing => exact .unsigned isDigits
    | plus => exact .plus isDigits
    | minus => exact .minus isDigits

/-! Exponents. -/

theorem exponentDigits?_eq_some_iff {cs : List Char} {power : Int} :
    exponentDigits? cs = some power ↔ Writes cs power := by
  rw [writes_iff]
  exact Option.ite_none_right_eq_some.trans (and_congr_right' (Option.some_inj.trans eq_comm))

theorem exponent?_eq_some_iff {cs : List Char} {power : Int} :
    exponent? cs = some power ↔ IsExponent cs power := by
  constructor
  · intro read
    unfold exponent? at read
    split at read
    · cases read
      exact .missing
    · exact .power (.inl rfl) (exponentDigits?_eq_some_iff.mp read)
    · exact .power (.inr rfl) (exponentDigits?_eq_some_iff.mp read)
    · cases read
  · intro isExponent
    cases isExponent with
    | missing => rfl
    | power isLetter writes =>
        rcases isLetter with rfl | rfl <;> exact exponentDigits?_eq_some_iff.mpr writes

section

variable {exponent : List Char} {power : Int} (isExponent : IsExponent exponent power)

include isExponent

theorem IsExponent.head : ∀ c ∈ exponent.head?, c = 'e' ∨ c = 'E' := by
  cases isExponent with
  | missing => nofun
  | power isLetter writes =>
      intro c isFirst
      cases isFirst
      exact isLetter

/-- An exponent does not go on with the digits before it. -/
theorem IsExponent.stops : ∀ c ∈ exponent.head?, c.isDigit = false := by
  intro c isFirst
  rcases isExponent.head c isFirst with rfl | rfl <;> rfl

theorem IsExponent.takeFraction_eq : takeFraction exponent = ([], exponent) := by
  unfold takeFraction
  split
  · rcases isExponent.head '.' rfl with isLetter | isLetter <;> exact absurd isLetter (by decide)
  · rfl

end

/-! Digits with or without a point. -/

theorem allDigits_of_ne_nil {digits : List Char} (someDigit : digits ≠ [])
    (isDigit : ∀ c ∈ digits, c.isDigit = true) : allDigits digits = true := by
  rw [allDigits, Bool.and_eq_true, List.all_eq_true, Bool.not_eq_true', List.isEmpty_eq_false_iff]
  exact ⟨someDigit, isDigit⟩

theorem ne_nil_of_allDigits {digits : List Char} (isDigits : allDigits digits = true) :
    digits ≠ [] := by
  rintro rfl
  cases isDigits

theorem isDigit_of_mem_takeWhile (cs : List Char) :
    ∀ c ∈ cs.takeWhile Char.isDigit, c.isDigit = true :=
  fun _ member => List.all_eq_true.mp List.all_takeWhile _ member

theorem IsMantissa.unsigned {mantissa : List Char} {digits places : Nat}
    (isMantissa : IsMantissa mantissa digits places) (rest : List Char) :
    Unsigned (mantissa ++ rest) := by
  have noSign : ∀ c : Char, c.isDigit = true → c ≠ '-' ∧ c ≠ '+' := by
    intro c isDigit
    constructor <;> rintro rfl <;> cases isDigit
  have started : ∀ {digits : List Char}, allDigits digits = true →
      ∀ rest, Unsigned (digits ++ rest) := by
    intro digits isDigits rest c isFirst
    obtain ⟨first, others, rfl⟩ := List.exists_cons_of_ne_nil (ne_nil_of_allDigits isDigits)
    cases isFirst
    exact noSign _ (isDigit_of_allDigits isDigits _ List.mem_cons_self)
  cases isMantissa with
  | whole isDigits => exact started isDigits rest
  | pointed isDigits isFraction =>
      rw [List.append_assoc]
      exact started isDigits _
  | fraction isDigits =>
      intro c isFirst
      cases isFirst
      exact ⟨by decide, by decide⟩

/-- Digits are taken up to the exponent, those before a point and those behind it. -/
theorem IsMantissa.taken {mantissa exponent : List Char} {digits places : Nat} {power : Int}
    (isMantissa : IsMantissa mantissa digits places) (isExponent : IsExponent exponent power) :
    ∃ whole fraction, (mantissa ++ exponent).takeWhile Char.isDigit = whole ∧
      takeFraction ((mantissa ++ exponent).dropWhile Char.isDigit) = (fraction, exponent) ∧
      (whole.isEmpty && fraction.isEmpty) = false ∧ digitsValue (whole ++ fraction) = digits ∧
      fraction.length = places := by
  have point : ∀ rest : List Char, ∀ c ∈ ('.' :: rest).head?, c.isDigit = false := by
    intro rest c isFirst
    cases isFirst
    rfl
  cases isMantissa with
  | whole isDigits =>
      obtain ⟨taken, dropped⟩ :=
        Text.takeWhile_word (isDigit_of_allDigits isDigits) isExponent.stops
      refine ⟨mantissa, [], taken, ?_, ?_, by rw [List.append_nil]; rfl, rfl⟩
      · rw [dropped, isExponent.takeFraction_eq]
      · simp [ne_nil_of_allDigits isDigits]
  | @pointed digits fraction isDigits isFraction =>
      obtain ⟨taken, dropped⟩ :=
        Text.takeWhile_word (isDigit_of_allDigits isDigits) (point (fraction ++ exponent))
      obtain ⟨takenBehind, droppedBehind⟩ := Text.takeWhile_word isFraction isExponent.stops
      refine ⟨digits, fraction, ?_, ?_, ?_, rfl, rfl⟩
      · rw [List.append_assoc]
        exact taken
      · rw [List.append_assoc, List.cons_append, dropped, takeFraction, takenBehind, droppedBehind]
      · simp [ne_nil_of_allDigits isDigits]
  | @fraction digits isDigits =>
      obtain ⟨taken, dropped⟩ :=
        Text.takeWhile_word (isDigit_of_allDigits isDigits) isExponent.stops
      refine ⟨[], digits, rfl, ?_, ?_, rfl, rfl⟩
      · show takeFraction ('.' :: (digits ++ exponent)) = _
        rw [takeFraction, taken, dropped]
      · simp [ne_nil_of_allDigits isDigits]

/-- What digits are taken from is digits with or without a point, and what is left. -/
theorem exists_isMantissa {cs fraction rest : List Char}
    (isFraction : takeFraction (cs.dropWhile Char.isDigit) = (fraction, rest))
    (someDigit : ((cs.takeWhile Char.isDigit).isEmpty && fraction.isEmpty) = false) :
    ∃ mantissa, IsMantissa mantissa (digitsValue (cs.takeWhile Char.isDigit ++ fraction))
      fraction.length ∧ cs = mantissa ++ rest := by
  have isDigit := isDigit_of_mem_takeWhile cs
  have cut := List.takeWhile_append_dropWhile (p := Char.isDigit) (l := cs)
  generalize cs.takeWhile Char.isDigit = whole at *
  generalize cs.dropWhile Char.isDigit = behind at *
  unfold takeFraction at isFraction
  split at isFraction
  · rename_i after
    cases isFraction
    have isDigitBehind := isDigit_of_mem_takeWhile after
    have pointed : cs =
        whole ++ '.' :: (after.takeWhile Char.isDigit ++ after.dropWhile Char.isDigit) := by
      rw [List.takeWhile_append_dropWhile, cut]
    by_cases noWhole : whole = []
    · subst noWhole
      have isDigits := allDigits_of_ne_nil (by simpa using someDigit) isDigitBehind
      exact ⟨_, .fraction isDigits, pointed⟩
    · refine ⟨_, .pointed (allDigits_of_ne_nil noWhole isDigit) isDigitBehind, ?_⟩
      rw [pointed, List.append_assoc, List.cons_append]
  · cases isFraction
    have isDigits := allDigits_of_ne_nil (by simpa using someDigit) isDigit
    refine ⟨whole, ?_, cut.symm⟩
    rw [List.append_nil]
    exact .whole isDigits

/-! Numerals. -/

/-- The grammar is read, and nothing else. -/
theorem read?_eq_some_iff {cs : List Char} {numeral : Numeral} :
    read? cs = some numeral ↔ Spells cs numeral := by
  constructor
  · intro read
    obtain ⟨sign, isSign, signed⟩ := exists_isSign cs
    rw [read?] at read
    generalize takeSign cs = taken at *
    obtain ⟨negative, unsigned⟩ := taken
    dsimp only at *
    cases isFraction : takeFraction (unsigned.dropWhile Char.isDigit) with
    | mk fraction rest =>
    rw [isFraction] at read
    dsimp only at read
    split at read
    · cases read
    · rename_i someDigit
      obtain ⟨power, isPower, rfl⟩ := Option.map_eq_some_iff.mp read
      obtain ⟨mantissa, isMantissa, rfl⟩ :=
        exists_isMantissa isFraction (Bool.eq_false_iff.mpr someDigit)
      rw [signed]
      exact .intro isSign isMantissa (exponent?_eq_some_iff.mp isPower)
  · intro spells
    obtain ⟨isSign, isMantissa, isExponent⟩ := spells
    obtain ⟨whole, fraction, taken, isFraction, someDigit, digits, places⟩ :=
      isMantissa.taken isExponent
    rw [read?, isSign.takeSign_append (isMantissa.unsigned _)]
    dsimp only
    rw [isFraction, taken]
    dsimp only
    rw [someDigit, if_neg Bool.false_ne_true, exponent?_eq_some_iff.mpr isExponent, digits, places]
    rfl

end Numeral

/-- What is read as a number is spelled like a numeral. -/
theorem Number.exists_spells {cs : List Char} {number : Number}
    (read : read? cs = some number) : ∃ numeral, Numeral.Spells (Text.trim cs) numeral := by
  rw [read?] at read
  split at read
  · rename_i whole isInteger
    obtain ⟨writes, -⟩ := Numeral.integer?_eq_some_iff.mp isInteger
    obtain ⟨negative, spelled, -⟩ := writes.read?_eq
    exact ⟨_, Numeral.read?_eq_some_iff.mp spelled⟩
  · obtain ⟨double, isDouble, -⟩ := Option.map_eq_some_iff.mp read
    obtain ⟨numeral, spelled, -⟩ := Option.bind_eq_some_iff.mp isDouble
    exact ⟨numeral, Numeral.read?_eq_some_iff.mp spelled⟩

end Formwork
