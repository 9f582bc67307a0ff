/-
This file shows that a number is read as it was written, wherever it stands in a text.
-/

import Formwork.Proofs.Json.WrittenText

namespace Formwork

namespace Document

open Text

/-- What follows a number does not go on with it. -/
def EndsNumber (rest : List UInt8) : Prop :=
  ∀ byte ∈ rest.head?, isDigit byte = false ∧ byte ≠ 0x2e ∧ byte ≠ 0x65 ∧ byte ≠ 0x45

theorem takeDigits_cons (byte : UInt8) (bytes : List UInt8) :
    takeDigits (byte :: bytes) =
      if isDigit byte then (digit byte :: (takeDigits bytes).1, (takeDigits bytes).2)
      else ([], byte :: bytes) := by
  unfold takeDigits
  rw [List.takeWhile_cons, List.dropWhile_cons]
  split <;> rfl

section

variable {rest : List UInt8} (ends : EndsNumber rest)

include ends

theorem takeDigits_of_endsNumber : takeDigits rest = ([], rest) := by
  cases rest with
  | nil => rfl
  | cons byte rest =>
      rw [takeDigits_cons, if_neg (by simp [(ends byte rfl).1])]

theorem takeDigits_append (bytes : List UInt8) :
    takeDigits (bytes ++ rest) = ((takeDigits bytes).1, (takeDigits bytes).2 ++ rest) := by
  induction bytes with
  | nil => exact takeDigits_of_endsNumber ends
  | cons byte bytes inductionHypothesis =>
      rw [List.cons_append, takeDigits_cons, takeDigits_cons, inductionHypothesis]
      split <;> rfl

theorem readWhole?_append {bytes left : List UInt8} {digits : List Nat}
    (read : readWhole? bytes = some (digits, left)) :
    readWhole? (bytes ++ rest) = some (digits, left ++ rest) := by
  rw [readWhole?] at read ⊢
  rw [takeDigits_append ends]
  generalize takeDigits bytes = taken at read ⊢
  obtain ⟨taken, after⟩ := taken
  rcases taken with _ | ⟨_ | first, _ | ⟨second, others⟩⟩ <;> cases read <;> rfl

theorem readFraction?_append {bytes left : List UInt8} {fraction : Option (List Nat)}
    (read : readFraction? bytes = some (fraction, left)) :
    readFraction? (bytes ++ rest) = some (fraction, left ++ rest) := by
  unfold readFraction? at read
  split at read
  · rename_i digits
    rw [List.cons_append, readFraction?, takeDigits_append ends]
    generalize takeDigits digits = taken at read ⊢
    obtain ⟨_ | ⟨digit, others⟩, after⟩ := taken
    · cases read
    · cases read
      rfl
  · rename_i noPoint
    cases read
    have stillNoPoint : ∀ digits, bytes ++ rest ≠ 0x2e :: digits := by
      intro digits isPoint
      cases bytes with
      | nil => exact (ends 0x2e (by rw [← List.nil_append rest, isPoint]; rfl)).2.1 rfl
      | cons byte bytes =>
          rw [List.cons_append, List.cons.injEq] at isPoint
          exact noPoint bytes (by rw [isPoint.1])
    rw [readFraction?]
    exact stillNoPoint

theorem readPower?_append {negative : Bool} {bytes left : List UInt8} {exponent : Option Int}
    (read : readPower? negative bytes = some (exponent, left)) :
    readPower? negative (bytes ++ rest) = some (exponent, left ++ rest) := by
  rw [readPower?] at read ⊢
  rw [takeDigits_append ends]
  generalize takeDigits bytes = taken at read ⊢
  obtain ⟨_ | ⟨digit, others⟩, after⟩ := taken
  · cases read
  · cases read
    rfl

theorem readExponent?_append {bytes left : List UInt8} {exponent : Option Int}
    (read : readExponent? bytes = some (exponent, left)) :
    readExponent? (bytes ++ rest) = some (exponent, left ++ rest) := by
  cases bytes with
  | nil =>
      cases read
      cases rest with
      | nil => rfl
      | cons byte rest =>
          have other := (ends byte rfl).2.2
          simp [readExponent?, other.1, other.2]
  | cons byte bytes =>
      by_cases isLetter : (byte == 0x65 || byte == 0x45) = true
      · unfold readExponent? at read ⊢
        simp only [List.cons_append, if_pos isLetter] at read ⊢
        split at read
        · exact readPower?_append ends read
        · exact readPower?_append ends read
        · rename_i noPlus noMinus
          cases bytes with
          | nil => cases read
          | cons first bytes =>
              have notPlus : first ≠ 0x2b := fun plus => noPlus bytes (by rw [plus])
              have notMinus : first ≠ 0x2d := fun minus => noMinus bytes (by rw [minus])
              rw [← readPower?_append ends read]
              simp [notPlus, notMinus]
      · have noExponent : readExponent? (byte :: bytes) = some (none, byte :: bytes) :=
          if_neg isLetter
        rw [noExponent] at read
        cases read
        exact if_neg isLetter

/-- A number is read up to what does not go on with it. -/
theorem readNumber?_append {negative : Bool} {bytes left : List UInt8} {document : Document}
    (read : readNumber? negative bytes = some (document, left)) :
    readNumber? negative (bytes ++ rest) = some (document, left ++ rest) := by
  simp only [readNumber?, Option.bind_eq_bind, Option.bind_eq_some_iff, Prod.exists] at read ⊢
  obtain ⟨whole, afterWhole, wholeRead, fraction, afterFraction, fractionRead, exponent,
    afterExponent, exponentRead, isNumber⟩ := read
  refine ⟨whole, _, readWhole?_append ends wholeRead, fraction, _,
    readFraction?_append ends fractionRead, exponent, _, readExponent?_append ends exponentRead, ?_⟩
  split at isNumber <;> cases isNumber <;> rfl

end

/-- The values of the digits of a whole number. -/
def wholeDigits (value : Nat) : List Nat :=
  (Double.digitChars value).map fun c => c.toNat - '0'.toNat

theorem digitsValue_wholeDigits (value : Nat) : digitsValue (wholeDigits value) = value := by
  rw [digitsValue, wholeDigits, List.foldl_map]
  exact Nat.ofDigitChars_toDigits (by decide) (by decide)

theorem toNat_of_isDigit {c : Char} (isDigit : c.isDigit = true) :
    0x30 ≤ c.toNat ∧ c.toNat ≤ 0x39 := by
  simpa [Char.isDigit, UInt32.le_iff_toNat_le] using isDigit

theorem takeDigits_bytes {cs : List Char} (allDigits : ∀ c ∈ cs, c.isDigit = true) :
    takeDigits (bytes cs) = (cs.map fun c => c.toNat - '0'.toNat, []) := by
  have each : ∀ point < 0x3a, 0x30 ≤ point →
      isDigit (UInt8.ofNat point) = true ∧ digit (UInt8.ofNat point) = point - '0'.toNat := by
    decide
  induction cs with
  | nil => rfl
  | cons c cs inductionHypothesis =>
      rw [List.forall_mem_cons] at allDigits
      obtain ⟨above, below⟩ := toNat_of_isDigit allDigits.1
      obtain ⟨isDigit, value⟩ := each c.toNat (by omega) above
      rw [bytes_cons, utf8EncodeChar_of_ascii (by omega), List.singleton_append, takeDigits_cons,
        if_pos isDigit, value, inductionHypothesis allDigits.2, List.map_cons]

/-- No whole number but zero begins with a zero. -/
theorem head_digitChars {value : Nat} (positive : 0 < value) :
    (Double.digitChars value).head? ≠ some '0' := by
  induction value using Nat.strongRecOn with
  | ind value inductionHypothesis =>
      rw [Double.digitChars, Nat.toDigits_eq_if (by decide)]
      split
      · rename_i single
        have each : ∀ digit < 10, 0 < digit → digit.digitChar ≠ '0' := by decide
        simpa using each value single positive
      · have shorter := inductionHypothesis (value / 10) (by omega) (by omega)
        obtain ⟨first, others, digits⟩ := List.exists_cons_of_length_pos
          (Nat.length_toDigits_pos : 0 < (Nat.toDigits 10 (value / 10)).length)
        rw [Double.digitChars, digits] at shorter
        rwa [digits]

theorem readWhole?_digitChars (value : Nat) :
    readWhole? (bytes (Double.digitChars value)) = some (wholeDigits value, []) := by
  have allDigits : ∀ c ∈ Double.digitChars value, c.isDigit = true :=
    fun c member => Nat.isDigit_of_mem_toDigits (by decide) (by decide) member
  rw [readWhole?, takeDigits_bytes allDigits, ← wholeDigits]
  rcases Nat.eq_zero_or_pos value with rfl | positive
  · rfl
  · obtain ⟨first, others, digits⟩ := List.exists_cons_of_length_pos
      (Nat.length_toDigits_pos : 0 < (Double.digitChars value).length)
    have notZero := head_digitChars positive
    rw [Double.digitChars, digits] at notZero allDigits
    have isDigit := (toNat_of_isDigit (allDigits first List.mem_cons_self)).1
    have different : first.toNat ≠ '0'.toNat := fun equal =>
      notZero (congrArg some (Char.toNat_inj.mp equal))
    obtain ⟨below, nonzero⟩ : ∃ below, first.toNat - '0'.toNat = below + 1 :=
      Nat.exists_eq_add_one.mpr (Nat.sub_pos_of_lt (Nat.lt_of_le_of_ne isDigit different.symm))
    rw [wholeDigits, Double.digitChars, digits, List.map_cons, nonzero]
    cases others <;> rfl

theorem le_digitsFrom (value : Nat) (digits : List Nat) :
    value ≤ digits.foldl (fun value digit => 10 * value + digit) value := by
  induction digits generalizing value with
  | nil => exact Nat.le_refl _
  | cons digit digits inductionHypothesis =>
      have later := inductionHypothesis (10 * value + digit)
      rw [List.foldl_cons]
      omega

theorem gather_of_le {value : Nat} {digits : List Nat}
    (fits : digits.foldl (fun value digit => 10 * value + digit) value ≤ 0xffffffffffffffff) :
    Literal.gather value digits =
      (digits.foldl (fun value digit => 10 * value + digit) value, 0) := by
  induction digits generalizing value with
  | nil => rfl
  | cons digit digits inductionHypothesis =>
      rw [List.foldl_cons] at fits
      rw [Literal.gather, if_pos (Nat.le_trans (le_digitsFrom _ digits) fits),
        inductionHypothesis fits, List.foldl_cons]

/-- The digits of a whole number of 64 bits are read as this number. -/
theorem readNumber?_digitChars (negative : Bool) {value : Nat} (fits : value ≤ 0xffffffffffffffff)
    (signed : negative = true → 0 < value ∧ value ≤ 0x8000000000000000) :
    readNumber? negative (bytes (Double.digitChars value)) =
      some (num (.int (if negative then -(value : Int) else value)), []) := by
  have gathered : Literal.gather 0 (wholeDigits value) = (value, 0) := by
    have total := digitsValue_wholeDigits value
    rw [digitsValue] at total
    rw [gather_of_le (total.symm ▸ fits), total]
  have isNumber : Literal.number? ⟨negative, wholeDigits value, none, none⟩ =
      some (.int (if negative then -(value : Int) else value)) := by
    have inRange : (!negative || (decide (0 < value) && decide (value ≤ 0x8000000000000000))) =
        true := by
      cases negative with
      | false => rfl
      | true => simp [signed rfl]
    simp [Literal.number?, gathered, inRange]
  rw [readNumber?, readWhole?_digitChars]
  simp only [Option.bind_eq_bind, Option.bind_some, readFraction?, readExponent?, isNumber]

end Document

/-- A number that is read as it is written: an integer of 64 bits, or a floating point number whose
digits are read back as this number. -/
def Number.IsRead : Number → Prop
  | .int value => -0x8000000000000000 ≤ value ∧ value ≤ 0xffffffffffffffff
  | .float value =>
      Document.readNumber? value.negative (Text.bytes (Double.magnitudeChars value.magnitude)) =
        some (.num (.float value), [])

namespace Document

open Text

/-- The text of a number is its sign and what is read behind it. -/
theorem readNumber?_of_isRead {number : Number} (isRead : number.IsRead) :
    ∃ negative cs, number.text.toList = (if negative then '-' :: cs else cs) ∧
      readNumber? negative (bytes cs) = some (num number, []) := by
  match number, isRead with
  | .int (.ofNat value), ⟨_, fits⟩ =>
      have fits : value ≤ 0xffffffffffffffff := Int.ofNat_le.mp fits
      exact ⟨false, Double.digitChars value, String.toList_ofList,
        readNumber?_digitChars false fits nofun⟩
  | .int (.negSucc below), ⟨fits, _⟩ =>
      have fits : below + 1 ≤ 0x8000000000000000 := by omega
      exact ⟨true, Double.digitChars (below + 1), String.toList_ofList,
        readNumber?_digitChars true (Nat.le_trans fits (by decide))
          fun _ => ⟨Nat.succ_pos below, fits⟩⟩
  | .float value, isRead =>
      exact ⟨value.negative, Double.magnitudeChars value.magnitude, String.toList_ofList, isRead⟩

theorem isDigit_of_readNumber? {negative : Bool} {bytes : List UInt8}
    {result : Document × List UInt8} (read : readNumber? negative bytes = some result) :
    ∃ byte rest, bytes = byte :: rest ∧ isDigit byte = true := by
  cases bytes with
  | nil => cases read
  | cons byte rest =>
      refine ⟨byte, rest, rfl, ?_⟩
      by_cases isDigit : isDigit byte = true
      · exact isDigit
      · rw [readNumber?, readWhole?, takeDigits_cons, if_neg isDigit] at read
        cases read

theorem ne_of_isDigit {byte other : UInt8} (isDigit : isDigit byte = true)
    (noDigit : Document.isDigit other = false) : byte ≠ other := by
  rintro rfl
  exact absurd isDigit (by simp [noDigit])

theorem isSpace_of_isDigit {byte : UInt8} (isDigit : isDigit byte = true) :
    isSpace byte = false := by
  simp [isSpace, ne_of_isDigit isDigit (show Document.isDigit 0x20 = false by decide),
    ne_of_isDigit isDigit (show Document.isDigit 0x09 = false by decide),
    ne_of_isDigit isDigit (show Document.isDigit 0x0a = false by decide),
    ne_of_isDigit isDigit (show Document.isDigit 0x0d = false by decide)]

theorem readValue?_digit {byte : UInt8} (isDigit : isDigit byte = true) (depth fuel : Nat)
    (rest : List UInt8) :
    readValue? depth (fuel + 1) (byte :: rest) = readNumber? false (byte :: rest) := by
  have quote : byte ≠ 0x22 := ne_of_isDigit isDigit (by decide)
  have bracket : byte ≠ 0x5b := ne_of_isDigit isDigit (by decide)
  have brace : byte ≠ 0x7b := ne_of_isDigit isDigit (by decide)
  have minus : byte ≠ 0x2d := ne_of_isDigit isDigit (by decide)
  simp [readValue?, skipSpace, isSpace_of_isDigit isDigit, quote, bracket, brace, minus, isDigit]

/-- A number is read as it was written, in front of what does not go on with it. -/
theorem readValue?_number {number : Number} (isRead : number.IsRead) (depth fuel : Nat)
    {rest : List UInt8} (ends : EndsNumber rest) :
    readValue? depth (fuel + 1) (bytes number.text.toList ++ rest) = some (num number, rest) := by
  obtain ⟨negative, cs, text, read⟩ := readNumber?_of_isRead isRead
  have inside := readNumber?_append ends read
  rw [List.nil_append] at inside
  rw [text]
  cases negative with
  | true =>
      rw [if_pos rfl, bytes_cons]
      exact inside
  | false =>
      rw [if_neg Bool.false_ne_true]
      obtain ⟨byte, digits, starts, isDigit⟩ := isDigit_of_readNumber? inside
      rw [starts] at inside ⊢
      rw [readValue?_digit isDigit, inside]

end Document

end Formwork
