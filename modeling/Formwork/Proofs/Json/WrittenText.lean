/-
This file shows that a text in quotes is read as it was written.
-/

import Formwork.Json.Printer
import Formwork.Json.Reader

namespace Formwork

namespace Text

/-- The bytes of a text. -/
def bytes (cs : List Char) : List UInt8 :=
  cs.flatMap String.utf8EncodeChar

@[simp]
theorem bytes_nil : bytes [] = [] :=
  rfl

theorem bytes_cons (c : Char) (cs : List Char) :
    bytes (c :: cs) = String.utf8EncodeChar c ++ bytes cs :=
  List.flatMap_cons

theorem bytes_append (first second : List Char) :
    bytes (first ++ second) = bytes first ++ bytes second :=
  List.flatMap_append

theorem toList_byteArray_loop (array : ByteArray) (index : Nat) (reversed : List UInt8) :
    ByteArray.toList.loop array index reversed =
      reversed.reverse ++ array.data.toList.drop index := by
  fun_induction ByteArray.toList.loop array index reversed with
  | case1 index reversed inRange inductionHypothesis =>
      have inList : index < array.data.toList.length := by simpa using inRange
      have here : array.get! index = array.data.toList[index] := by
        rw [ByteArray.get!, getElem!_pos array.data index inRange, Array.getElem_toList]
      rw [inductionHypothesis, List.drop_eq_getElem_cons inList, here, List.reverse_cons,
        List.append_assoc, List.singleton_append]
  | case2 index reversed outOfRange =>
      have past : array.data.toList.length ≤ index := by simpa using outOfRange
      rw [List.drop_eq_nil_of_le past, List.append_nil]

theorem toList_toUTF8 (text : String) : text.toUTF8.toList = bytes text.toList := by
  obtain ⟨cs, rfl⟩ : ∃ cs, text = String.ofList cs := ⟨text.toList, String.ofList_toList.symm⟩
  rw [ByteArray.toList, toList_byteArray_loop, String.toUTF8_eq_toByteArray,
    String.toByteArray_ofList, List.utf8Encode, List.toList_data_toByteArray, String.toList_ofList]
  rfl

theorem utf8EncodeChar_of_ascii {c : Char} (ascii : c.toNat < 0x80) :
    String.utf8EncodeChar c = [UInt8.ofNat c.toNat] := by
  have below : c.val.toNat ≤ 127 := Nat.le_of_lt_succ ascii
  simp only [String.utf8EncodeChar, below, if_true]
  rfl

/-- All bytes of a character beyond ASCII have their highest bit set. -/
theorem not_ascii_of_mem_utf8EncodeChar {c : Char} (notAscii : 0x80 ≤ c.toNat) {byte : UInt8}
    (member : byte ∈ String.utf8EncodeChar c) : 0x80 ≤ byte := by
  have above : ¬c.val.toNat ≤ 127 := Nat.not_le_of_lt notAscii
  have high (value : Nat) (inRange : 128 ≤ value ∧ value < 256) : 0x80 ≤ UInt8.ofNat value := by
    rw [UInt8.le_iff_toNat_le, UInt8.toNat_ofNat_of_lt' inRange.2]
    exact inRange.1
  simp only [String.utf8EncodeChar, above, if_false] at member
  split at member
  · simp only [List.mem_cons, List.not_mem_nil, or_false] at member
    rcases member with rfl | rfl <;> exact high _ (by omega)
  · split at member
    · simp only [List.mem_cons, List.not_mem_nil, or_false] at member
      rcases member with rfl | rfl | rfl <;> exact high _ (by omega)
    · simp only [List.mem_cons, List.not_mem_nil, or_false] at member
      rcases member with rfl | rfl | rfl | rfl <;> exact high _ (by omega)

end Text

namespace Document

open Text

theorem decodeText?_bytes (cs : List Char) : decodeText? (bytes cs) = some (String.ofList cs) := by
  have valid : (bytes cs).toByteArray.IsValidUTF8 := ByteArray.isValidUTF8_utf8Encode
  rw [decodeText?, String.fromUTF8?, dif_pos valid]
  rfl

theorem readBytes?_close (reversed : List UInt8) (fuel : Nat) (rest : List UInt8) :
    readBytes? (some reversed) (fuel + 1) (0x22 :: rest) = some (some reversed.reverse, rest) :=
  rfl

/-- A byte that is neither a control character nor a quote nor a backslash stands for itself. -/
def IsPlain (byte : UInt8) : Prop :=
  0x20 ≤ byte ∧ byte ≠ 0x22 ∧ byte ≠ 0x5c

theorem readBytes?_cons {byte : UInt8} (plain : IsPlain byte) (reversed : List UInt8) (fuel : Nat)
    (rest : List UInt8) :
    readBytes? (some reversed) (fuel + 1) (byte :: rest) =
      readBytes? (some (byte :: reversed)) fuel rest := by
  conv => lhs; unfold readBytes?
  simp [plain.2.1, plain.2.2, UInt8.not_lt.mpr plain.1]

theorem readBytes?_append {plain : List UInt8}
    (allPlain : ∀ byte ∈ plain, IsPlain byte) (reversed : List UInt8) (fuel : Nat)
    (rest : List UInt8) :
    readBytes? (some reversed) (plain.length + fuel) (plain ++ rest) =
      readBytes? (some (plain.reverse ++ reversed)) fuel rest := by
  induction plain generalizing reversed with
  | nil => rw [List.length_nil, Nat.zero_add]; rfl
  | cons byte plain inductionHypothesis =>
      rw [List.forall_mem_cons] at allPlain
      rw [List.length_cons, Nat.add_right_comm, List.cons_append, readBytes?_cons allPlain.1,
        inductionHypothesis allPlain.2, List.reverse_cons, List.append_assoc,
        List.singleton_append]

theorem readBytes?_letter {letter byte : UInt8} (notUnit : letter ≠ 0x75)
    (standsFor : escaped? letter = some byte) (reversed : List UInt8) (fuel : Nat)
    (rest : List UInt8) :
    readBytes? (some reversed) (fuel + 1) (0x5c :: letter :: rest) =
      readBytes? (some (byte :: reversed)) fuel rest := by
  rw [readBytes?]
  simp [notUnit, standsFor]

theorem readBytes?_unit {digits rest : List UInt8} {unit : Nat}
    (isUnit : readUnit? (digits ++ rest) = some (unit, rest)) (single : unit < 0xd800)
    (reversed : List UInt8) (fuel : Nat) :
    readBytes? (some reversed) (fuel + 1) (0x5c :: 0x75 :: (digits ++ rest)) =
      readBytes? (some ((encodeChar unit).reverse ++ reversed)) fuel rest := by
  have notTrailing : isTrailing unit = false := by
    simp only [isTrailing, Bool.and_eq_false_iff, decide_eq_false_iff_not]
    omega
  have notLeading : isLeading unit = false := by
    simp only [isLeading, Bool.and_eq_false_iff, decide_eq_false_iff_not]
    omega
  rw [readBytes?]
  simp [isUnit, notTrailing, notLeading]

theorem encodeChar_toNat (c : Char) : encodeChar c.toNat = String.utf8EncodeChar c := by
  rw [encodeChar, Char.ofNat_toNat, toList_toUTF8, String.toList_ofList, bytes_cons, bytes_nil,
    List.append_nil]

theorem hexDigit_read {digit : Nat} (below : digit < 16) :
    ∃ byte, String.utf8EncodeChar (Json.hexDigit digit) = [byte] ∧
      hexValue? byte = some digit := by
  have each : ∀ digit < 16,
      String.utf8EncodeChar (Json.hexDigit digit) =
          [UInt8.ofNat (Json.hexDigit digit).toNat] ∧
        hexValue? (UInt8.ofNat (Json.hexDigit digit).toNat) = some digit := by decide
  exact ⟨_, each digit below⟩

/-- Four hexadecimal digits spell a control character. -/
theorem readUnit?_control {point : Nat} (control : point < 0x20) (rest : List UInt8) :
    readUnit? (bytes ['0', '0', Json.hexDigit (point / 16), Json.hexDigit (point % 16)] ++ rest) =
      some (point, rest) := by
  obtain ⟨high, highBytes, highRead⟩ := hexDigit_read (show point / 16 < 16 by omega)
  obtain ⟨low, lowBytes, lowRead⟩ := hexDigit_read (show point % 16 < 16 by omega)
  have zeroBytes : String.utf8EncodeChar '0' = [0x30] := by decide
  have zeroRead : hexValue? 0x30 = some 0 := by decide
  simp only [bytes_cons, bytes_nil, highBytes, lowBytes, zeroBytes, List.cons_append,
    List.nil_append, readUnit?, highRead, lowRead, zeroRead, Option.bind_eq_bind, Option.bind_some,
    Option.some.injEq, Prod.mk.injEq, and_true]
  omega

/-- The bytes of a character that stands for itself in quotes. -/
theorem isPlain_of_mem {c : Char} (notQuote : c ≠ '"') (notBackslash : c ≠ '\\')
    (notControl : ¬c.toNat < 0x20) : ∀ byte ∈ String.utf8EncodeChar c, IsPlain byte := by
  intro byte member
  by_cases ascii : c.toNat < 0x80
  · rw [utf8EncodeChar_of_ascii ascii, List.mem_singleton] at member
    have same : byte.toNat = c.toNat := by
      rw [member, UInt8.toNat_ofNat_of_lt' (Nat.lt_trans ascii (by decide))]
    have differs {other : Char} (different : c ≠ other) : byte.toNat ≠ other.toNat := by
      intro equal
      exact different (Char.toNat_inj.mp (same.symm.trans equal))
    refine ⟨?_, ?_, ?_⟩
    · rw [UInt8.le_iff_toNat_le, same]
      exact Nat.le_of_not_lt notControl
    · exact fun equal => differs notQuote (congrArg UInt8.toNat equal)
    · exact fun equal => differs notBackslash (congrArg UInt8.toNat equal)
  · have high := not_ascii_of_mem_utf8EncodeChar (Nat.le_of_not_lt ascii) member
    rw [UInt8.le_iff_toNat_le] at high
    have above : 128 ≤ byte.toNat := high
    refine ⟨?_, ?_, ?_⟩
    · rw [UInt8.le_iff_toNat_le]
      exact Nat.le_trans (by decide) above
    · rintro rfl
      exact absurd above (by decide)
    · rintro rfl
      exact absurd above (by decide)

/-- A character in quotes is a letter behind a backslash, four digits behind one, or itself. -/
theorem quotedChar_cases (c : Char) :
    (∃ letter byte, bytes (Json.quotedChar c) = [0x5c, letter] ∧ letter ≠ 0x75 ∧
      escaped? letter = some byte ∧ String.utf8EncodeChar c = [byte]) ∨
    (c.toNat < 0x20 ∧ Json.quotedChar c =
      ['\\', 'u', '0', '0', Json.hexDigit (c.toNat / 16), Json.hexDigit (c.toNat % 16)]) ∨
    (Json.quotedChar c = [c] ∧ ∀ byte ∈ String.utf8EncodeChar c, IsPlain byte) := by
  have isChar {point : Nat} (here : c.toNat = point) : c = Char.ofNat point := by
    rw [← here, Char.ofNat_toNat]
  by_cases isQuote : c = '"'
  · subst isQuote
    exact .inl ⟨0x22, 0x22, by decide⟩
  by_cases isBackslash : c = '\\'
  · subst isBackslash
    exact .inl ⟨0x5c, 0x5c, by decide⟩
  by_cases control : c.toNat < 0x20
  · by_cases backspace : c.toNat = 0x08
    · exact .inl ⟨0x62, 0x08, by rw [isChar backspace]; decide⟩
    by_cases tab : c.toNat = 0x09
    · exact .inl ⟨0x74, 0x09, by rw [isChar tab]; decide⟩
    by_cases newline : c.toNat = 0x0a
    · exact .inl ⟨0x6e, 0x0a, by rw [isChar newline]; decide⟩
    by_cases formFeed : c.toNat = 0x0c
    · exact .inl ⟨0x66, 0x0c, by rw [isChar formFeed]; decide⟩
    by_cases carriageReturn : c.toNat = 0x0d
    · exact .inl ⟨0x72, 0x0d, by rw [isChar carriageReturn]; decide⟩
    refine .inr (.inl ⟨control, ?_⟩)
    rw [Json.quotedChar, if_neg isQuote, if_neg isBackslash, if_pos control]
    split <;> first | contradiction | rfl
  · refine .inr (.inr ⟨?_, isPlain_of_mem isQuote isBackslash control⟩)
    rw [Json.quotedChar, if_neg isQuote, if_neg isBackslash, if_neg control]

/-- Reading a character in quotes gives its bytes. -/
theorem readBytes?_quotedChar (c : Char) (reversed : List UInt8) (rest : List UInt8) {fuel : Nat}
    (enough : (bytes (Json.quotedChar c) ++ rest).length ≤ fuel) :
    ∃ left, rest.length ≤ left ∧
      readBytes? (some reversed) fuel (bytes (Json.quotedChar c) ++ rest) =
        readBytes? (some ((String.utf8EncodeChar c).reverse ++ reversed)) left rest := by
  rw [List.length_append] at enough
  rcases quotedChar_cases c with ⟨letter, byte, quoted, notUnit, standsFor, encoded⟩ |
    ⟨control, quoted⟩ | ⟨quoted, plain⟩
  · rw [quoted, List.length_cons] at enough
    obtain ⟨left, rfl⟩ : ∃ left, fuel = left + 1 := Nat.exists_eq_add_one.mpr (by omega)
    refine ⟨left, by omega, ?_⟩
    rw [quoted, encoded]
    exact readBytes?_letter notUnit standsFor reversed left rest
  · rw [quoted, bytes_cons, List.length_append] at enough
    have positive : 0 < (String.utf8EncodeChar '\\').length := by decide
    obtain ⟨left, rfl⟩ : ∃ left, fuel = left + 1 := Nat.exists_eq_add_one.mpr (by omega)
    refine ⟨left, by omega, ?_⟩
    rw [quoted, ← encodeChar_toNat]
    exact readBytes?_unit (readUnit?_control control rest) (by omega) reversed left
  · rw [quoted, bytes_cons, bytes_nil, List.append_nil] at enough ⊢
    obtain ⟨left, rfl⟩ := Nat.exists_eq_add_of_le (Nat.le_of_add_right_le enough)
    exact ⟨left, by omega, readBytes?_append plain reversed left rest⟩

/-- Reading characters in quotes gives their bytes, up to the quote that closes them. -/
theorem readBytes?_writeChars (cs rest : List Char) (reversed : List UInt8) {fuel : Nat}
    (enough : (bytes (Json.writeChars cs ('"' :: rest))).length ≤ fuel) :
    readBytes? (some reversed) fuel (bytes (Json.writeChars cs ('"' :: rest))) =
      some (some (reversed.reverse ++ bytes cs), bytes rest) := by
  induction cs generalizing reversed fuel with
  | nil =>
      have closing : bytes ('"' :: rest) = 0x22 :: bytes rest := by
        rw [bytes_cons]
        rfl
      rw [Json.writeChars, closing, List.length_cons] at enough
      obtain ⟨left, rfl⟩ : ∃ left, fuel = left + 1 := Nat.exists_eq_add_one.mpr (by omega)
      rw [Json.writeChars, closing, readBytes?_close, bytes_nil, List.append_nil]
  | cons c cs inductionHypothesis =>
      rw [Json.writeChars, bytes_append] at enough ⊢
      obtain ⟨left, enoughLeft, step⟩ := readBytes?_quotedChar c reversed _ enough
      rw [step, inductionHypothesis _ enoughLeft, List.reverse_append, List.reverse_reverse,
        bytes_cons, List.append_assoc]

/-- A text in quotes is read as it was written. -/
theorem readString?_writeChars (text : String) (rest : List Char) {fuel : Nat}
    (enough : (bytes (Json.writeChars text.toList ('"' :: rest))).length ≤ fuel) :
    readString? fuel (bytes (Json.writeChars text.toList ('"' :: rest))) =
      some (some text, bytes rest) := by
  have decoded : decodeText? (bytes text.toList) = some text := by
    rw [decodeText?_bytes, String.ofList_toList]
  rw [readString?, readBytes?_writeChars _ _ _ enough, List.reverse_nil, List.nil_append]
  exact congrArg (fun content => some (content, bytes rest)) decoded

end Document

end Formwork
