/-
This file shows what is read from the text of a value: the value itself, unless its brackets are too
deep.
-/

import Formwork.Proofs.Json.Settled
import Formwork.Proofs.Json.WrittenNumber

namespace Formwork

namespace Json

mutual

/-- How deep the brackets of a value are inside each other. -/
def depth : Json → Nat
  | arr items => itemsDepth items + 1
  | obj members => membersDepth members + 1
  | _ => 0

def itemsDepth : List Json → Nat
  | [] => 0
  | item :: rest => max (depth item) (itemsDepth rest)

def membersDepth : List (String × Json) → Nat
  | [] => 0
  | (_, value) :: rest => max (depth value) (membersDepth rest)

end

mutual

/-- Every number inside a value is read as it is written. -/
def NumbersRead : Json → Prop
  | num value => value.IsRead
  | arr items => ItemNumbersRead items
  | obj members => MemberNumbersRead members
  | _ => True

def ItemNumbersRead : List Json → Prop
  | [] => True
  | item :: rest => NumbersRead item ∧ ItemNumbersRead rest

def MemberNumbersRead : List (String × Json) → Prop
  | [] => True
  | (_, value) :: rest => NumbersRead value ∧ MemberNumbersRead rest

end

mutual

/-- The document of a value inside `depth` brackets. Brackets that are too deep are unusable. -/
def documentWithin (depth : Nat) : Json → Document
  | arr items => .enclosed depth (.arr (itemDocumentsWithin (depth + 1) items))
  | obj members => .enclosed depth (.obj (memberDocumentsWithin (depth + 1) members))
  | null => .null
  | bool value => .bool value
  | num value => .num value
  | str text => .str text

def itemDocumentsWithin (depth : Nat) : List Json → List Document
  | [] => []
  | item :: rest => documentWithin depth item :: itemDocumentsWithin depth rest

def memberDocumentsWithin (depth : Nat) : List (String × Json) → List (Option String × Document)
  | [] => []
  | (name, value) :: rest =>
      (some name, documentWithin depth value) :: memberDocumentsWithin depth rest

end

end Json

namespace Document

open Text

theorem endsNumber_nil : EndsNumber [] := by
  simp [EndsNumber]

theorem endsNumber_cons {c : Char} (separates : c = ',' ∨ c = ']' ∨ c = '\x7d') (rest : List Char) :
    EndsNumber (bytes (c :: rest)) := by
  intro byte member
  rcases separates with rfl | rfl | rfl <;> cases member <;> decide

/-- The text of a value begins neither with a space nor with a closing bracket. -/
def StartsValue (text : List UInt8) : Prop :=
  ∃ byte rest, text = byte :: rest ∧ isSpace byte = false ∧ byte ≠ 0x5d

theorem startsValue_write {value : Json} (numbersRead : value.NumbersRead) (rest : List Char) :
    StartsValue (bytes (value.write rest)) := by
  match value, numbersRead with
  | .null, _ => exact ⟨_, _, rfl, by decide⟩
  | .bool true, _ => exact ⟨_, _, rfl, by decide⟩
  | .bool false, _ => exact ⟨_, _, rfl, by decide⟩
  | .str _, _ => exact ⟨_, _, rfl, by decide⟩
  | .arr _, _ => exact ⟨_, _, rfl, by decide⟩
  | .obj _, _ => exact ⟨_, _, rfl, by decide⟩
  | .num number, isRead =>
      obtain ⟨negative, cs, text, read⟩ := readNumber?_of_isRead isRead
      rw [Json.write, text]
      cases negative with
      | true => exact ⟨_, _, rfl, by decide⟩
      | false =>
          obtain ⟨byte, digits, starts, isDigit⟩ := isDigit_of_readNumber? read
          rw [if_neg Bool.false_ne_true, bytes_append, starts]
          exact ⟨byte, _, rfl, isSpace_of_isDigit isDigit, ne_of_isDigit isDigit (by decide)⟩

theorem startsValue_writeItems {items : List Json} (nonempty : items ≠ [])
    (numbersRead : Json.ItemNumbersRead items) (rest : List Char) :
    StartsValue (bytes (Json.writeItems items rest)) := by
  match items, numbersRead with
  | [], _ => exact absurd rfl nonempty
  | [_], numbersRead => exact startsValue_write numbersRead.1 rest
  | _ :: _ :: _, numbersRead => exact startsValue_write numbersRead.1 _

theorem quote_writeMembers {members : List (String × Json)} (nonempty : members ≠ [])
    (rest : List Char) : ∃ text, bytes (Json.writeMembers members rest) = 0x22 :: text := by
  match members with
  | [] => exact absurd rfl nonempty
  | [_] => exact ⟨_, rfl⟩
  | _ :: _ :: _ => exact ⟨_, rfl⟩

section

variable {depth fuel : Nat} {text rest : List UInt8}

theorem readValue?_items {items : List Document} (starts : StartsValue text)
    (read : readItems? (depth + 1) fuel text = some (items, rest)) :
    readValue? depth (fuel + 1) (0x5b :: text) = some (enclosed depth (arr items), rest) := by
  obtain ⟨byte, more, rfl, notSpace, notClosing⟩ := starts
  have bracket : isSpace 0x5b = false := by decide
  simp [readValue?, skipSpace, bracket, notSpace, notClosing, read]

theorem readItems?_last {item : Document}
    (read : readValue? depth fuel text = some (item, 0x5d :: rest)) :
    readItems? depth (fuel + 1) text = some ([item], rest) := by
  rw [readItems?, read]
  rfl

theorem readItems?_next {item : Document} {items : List Document} {after : List UInt8}
    (read : readValue? depth fuel text = some (item, 0x2c :: rest))
    (later : readItems? depth fuel rest = some (items, after)) :
    readItems? depth (fuel + 1) text = some (item :: items, after) := by
  rw [readItems?, read]
  simp [skipSpace, isSpace, later]

theorem readValue?_members {members : List (Option String × Document)}
    (read : readMembers? (depth + 1) fuel (0x22 :: text) = some (members, rest)) :
    readValue? depth (fuel + 1) (0x7b :: 0x22 :: text) =
      some (enclosed depth (obj members), rest) := by
  simp [readValue?, skipSpace, isSpace, read]

theorem readMembers?_last {name : Option String} {value : Document} {after : List UInt8}
    (nameRead : readString? fuel text = some (name, 0x3a :: rest))
    (read : readValue? depth fuel rest = some (value, 0x7d :: after)) :
    readMembers? depth (fuel + 1) (0x22 :: text) = some ([(name, value)], after) := by
  simp [readMembers?, skipSpace, isSpace, nameRead, read]

theorem readMembers?_next {name : Option String} {value : Document}
    {members : List (Option String × Document)} {after last : List UInt8}
    (nameRead : readString? fuel text = some (name, 0x3a :: rest))
    (read : readValue? depth fuel rest = some (value, 0x2c :: after))
    (later : readMembers? depth fuel after = some (members, last)) :
    readMembers? depth (fuel + 1) (0x22 :: text) = some ((name, value) :: members, last) := by
  simp [readMembers?, skipSpace, isSpace, nameRead, read, later]

end

end Document

namespace Json

theorem suffix_writeChars (cs rest : List Char) : rest <:+ writeChars cs rest := by
  induction cs with
  | nil => exact List.suffix_rfl
  | cons c cs inductionHypothesis => exact List.suffix_append_of_suffix inductionHypothesis

theorem suffix_writeText (text : String) (rest : List Char) : rest <:+ writeText text rest :=
  ((List.suffix_cons '"' rest).trans (suffix_writeChars _ _)).trans (List.suffix_cons _ _)

mutual

theorem suffix_write : (value : Json) → (rest : List Char) → rest <:+ value.write rest
  | null, rest => List.suffix_append ['n', 'u', 'l', 'l'] rest
  | bool true, rest => List.suffix_append ['t', 'r', 'u', 'e'] rest
  | bool false, rest => List.suffix_append ['f', 'a', 'l', 's', 'e'] rest
  | num _, rest => List.suffix_append _ rest
  | str text, rest => suffix_writeText text rest
  | arr items, rest =>
      ((List.suffix_cons _ rest).trans (suffix_writeItems items _)).trans (List.suffix_cons _ _)
  | obj members, rest =>
      ((List.suffix_cons _ rest).trans (suffix_writeMembers members _)).trans (List.suffix_cons _ _)

theorem suffix_writeItems : (items : List Json) → (rest : List Char) → rest <:+ writeItems items rest
  | [], _ => List.suffix_rfl
  | [item], rest => suffix_write item rest
  | item :: next :: items, rest =>
      ((suffix_writeItems (next :: items) rest).trans (List.suffix_cons _ _)).trans
        (suffix_write item _)

theorem suffix_writeMembers :
    (members : List (String × Json)) → (rest : List Char) → rest <:+ writeMembers members rest
  | [], _ => List.suffix_rfl
  | [(name, value)], rest =>
      ((suffix_write value rest).trans (List.suffix_cons _ _)).trans (suffix_writeText name _)
  | (name, value) :: next :: members, rest =>
      ((((suffix_writeMembers (next :: members) rest).trans (List.suffix_cons _ _)).trans
        (suffix_write value _)).trans (List.suffix_cons _ _)).trans (suffix_writeText name _)

end

end Json

namespace Document

open Text

theorem length_bytes_le {part whole : List Char} (suffix : part <:+ whole) :
    (bytes part).length ≤ (bytes whole).length := by
  obtain ⟨front, rfl⟩ := suffix
  rw [bytes_append, List.length_append]
  exact Nat.le_add_left _ _

theorem length_bytes_lt {c : Char} {part whole : List Char} (suffix : c :: part <:+ whole) :
    (bytes part).length < (bytes whole).length := by
  have longer := length_bytes_le suffix
  have positive := String.length_utf8EncodeChar c
  have := Char.utf8Size_pos c
  rw [bytes_cons, List.length_append] at longer
  omega

theorem isPrefixOf?_append (word rest : List UInt8) :
    word.isPrefixOf? (word ++ rest) = some rest := by
  induction word with
  | nil => rfl
  | cons byte word inductionHypothesis => exact (if_pos BEq.rfl).trans inductionHypothesis

theorem afterWord?_append (word : String) (rest : List Char) :
    afterWord? word (bytes (word.toList ++ rest)) = some (bytes rest) := by
  rw [afterWord?, toList_toUTF8, bytes_append, isPrefixOf?_append]

mutual

/-- The text of a value is read as the value, up to what follows it. Each byte needs two units of
fuel at most: one for an item or a member that begins, one for its value. -/
theorem readValue?_write (depth : Nat) : (value : Json) → value.NumbersRead → {rest : List Char} →
    EndsNumber (bytes rest) → {fuel : Nat} → 2 * (bytes (value.write rest)).length ≤ fuel →
      readValue? depth fuel (bytes (value.write rest)) =
        some (value.documentWithin depth, bytes rest)
  | .null, _, rest, _, fuel + 1, _ =>
      congrArg (Option.map fun rest => (null, rest)) (afterWord?_append "ull" rest)
  | .bool true, _, rest, _, fuel + 1, _ =>
      congrArg (Option.map fun rest => (bool true, rest)) (afterWord?_append "rue" rest)
  | .bool false, _, rest, _, fuel + 1, _ =>
      congrArg (Option.map fun rest => (bool false, rest)) (afterWord?_append "alse" rest)
  | .num number, isRead, rest, ends, fuel + 1, _ => by
      rw [Json.write, bytes_append]
      exact readValue?_number isRead depth fuel ends
  | .str text, _, rest, _, fuel + 1, enough => by
      have opening : (bytes (Json.write (.str text) rest)).length =
        (bytes (Json.writeChars text.toList ('"' :: rest))).length + 1 := rfl
      have enoughInside : (bytes (Json.writeChars text.toList ('"' :: rest))).length ≤ fuel := by
        omega
      have content := readString?_writeChars text rest enoughInside
      exact congrArg (Option.map fun read => ((read.1.map str).getD unusable, read.2)) content
  | .arr [], _, rest, _, fuel + 1, _ => rfl
  | .arr (item :: items), numbersRead, rest, _, fuel + 1, enough => by
      have opening : (bytes (Json.write (.arr (item :: items)) rest)).length =
        (bytes (Json.writeItems (item :: items) (']' :: rest))).length + 1 := rfl
      exact readValue?_items (startsValue_writeItems (List.cons_ne_nil _ _) numbersRead _)
        (readItems?_writeItems (depth + 1) (item :: items) (List.cons_ne_nil _ _) numbersRead
          (by omega))
  | .obj [], _, rest, _, fuel + 1, _ => rfl
  | .obj (member :: members), numbersRead, rest, _, fuel + 1, enough => by
      have opening : (bytes (Json.write (.obj (member :: members)) rest)).length =
        (bytes (Json.writeMembers (member :: members) ('\x7d' :: rest))).length + 1 := rfl
      obtain ⟨text, quoted⟩ := quote_writeMembers (List.cons_ne_nil member members) ('\x7d' :: rest)
      have enoughInside :
          2 * (bytes (Json.writeMembers (member :: members) ('\x7d' :: rest))).length + 1 ≤ fuel := by
        omega
      have read := readMembers?_writeMembers (depth + 1) (member :: members)
        (List.cons_ne_nil _ _) numbersRead enoughInside
      have opened : bytes (Json.write (.obj (member :: members)) rest) =
          0x7b :: bytes (Json.writeMembers (member :: members) ('\x7d' :: rest)) := rfl
      rw [quoted] at read opened
      rw [opened]
      exact readValue?_members read
  | value, numbersRead, rest, _, 0, enough => by
      obtain ⟨byte, more, starts, _⟩ := startsValue_write numbersRead rest
      rw [starts] at enough
      cases enough

theorem readItems?_writeItems (depth : Nat) : (items : List Json) → items ≠ [] →
    Json.ItemNumbersRead items → {rest : List Char} →
      {fuel : Nat} → 2 * (bytes (Json.writeItems items (']' :: rest))).length + 1 ≤ fuel →
      readItems? depth fuel (bytes (Json.writeItems items (']' :: rest))) =
        some (Json.itemDocumentsWithin depth items, bytes rest)
  | [item], _, numbersRead, rest, fuel + 1, enough =>
      readItems?_last (readValue?_write depth item numbersRead.1
        (endsNumber_cons (.inr (.inl rfl)) rest) (Nat.le_of_succ_le_succ enough))
  | item :: next :: items, _, numbersRead, rest, fuel + 1, enough => by
      have shorter := length_bytes_lt
        (Json.suffix_write item (',' :: Json.writeItems (next :: items) (']' :: rest)))
      rw [Json.writeItems] at enough
      exact readItems?_next
        (readValue?_write depth item numbersRead.1 (endsNumber_cons (.inl rfl) _) (by omega))
        (readItems?_writeItems depth (next :: items) (List.cons_ne_nil _ _) numbersRead.2
          (by omega))

theorem readMembers?_writeMembers (depth : Nat) : (members : List (String × Json)) →
    members ≠ [] → Json.MemberNumbersRead members →
      {rest : List Char} → {fuel : Nat} →
      2 * (bytes (Json.writeMembers members ('\x7d' :: rest))).length + 1 ≤ fuel →
      readMembers? depth fuel (bytes (Json.writeMembers members ('\x7d' :: rest))) =
        some (Json.memberDocumentsWithin depth members, bytes rest)
  | [(name, value)], _, numbersRead, rest, fuel + 1, enough => by
      have quoted : bytes (Json.writeMembers [(name, value)] ('\x7d' :: rest)) =
          0x22 :: bytes (Json.writeChars name.toList
            ('"' :: ':' :: value.write ('\x7d' :: rest))) := rfl
      have shorter := length_bytes_lt ((List.suffix_cons '"' _).trans
        (Json.suffix_writeChars name.toList ('"' :: ':' :: value.write ('\x7d' :: rest))))
      rw [quoted, List.length_cons] at enough
      rw [quoted]
      exact readMembers?_last (readString?_writeChars name _ (by omega))
        (readValue?_write depth value numbersRead.1 (endsNumber_cons (.inr (.inr rfl)) rest)
          (by omega))
  | (name, value) :: next :: members, _, numbersRead, rest, fuel + 1, enough => by
      have quoted : bytes (Json.writeMembers ((name, value) :: next :: members) ('\x7d' :: rest)) =
          0x22 :: bytes (Json.writeChars name.toList ('"' :: ':' ::
            value.write (',' :: Json.writeMembers (next :: members) ('\x7d' :: rest)))) := rfl
      have valueShorter := length_bytes_lt ((List.suffix_cons '"' _).trans
        (Json.suffix_writeChars name.toList ('"' :: ':' ::
          value.write (',' :: Json.writeMembers (next :: members) ('\x7d' :: rest)))))
      have laterShorter := length_bytes_lt
        (Json.suffix_write value (',' :: Json.writeMembers (next :: members) ('\x7d' :: rest)))
      rw [quoted, List.length_cons] at enough
      rw [quoted]
      exact readMembers?_next (readString?_writeChars name _ (by omega))
        (readValue?_write depth value numbersRead.1 (endsNumber_cons (.inl rfl) _) (by omega))
        (readMembers?_writeMembers depth (next :: members) (List.cons_ne_nil _ _) numbersRead.2
          (by omega))

end

/-- The text of a value holds the value as a document. -/
theorem ofText?_compact {value : Json} (numbersRead : value.NumbersRead) :
    ofText? value.compact = some (value.documentWithin 0) := by
  have text : value.compact.toUTF8.toList = bytes (value.write []) := by
    rw [Json.compact, toList_toUTF8, String.toList_ofList]
  have ends : EndsNumber (bytes []) := endsNumber_nil
  have read := readValue?_write 0 value numbersRead ends (Nat.le_add_right _ 2)
  rw [ofText?, ofBytes?, text, read]
  rfl

end Document

namespace Json

theorem value?_enclosed (depth : Nat) (document : Document) :
    (Document.enclosed depth document).value? =
      if depth < Document.maximalDepth then document.value? else none := by
  rw [Document.enclosed]
  split <;> rfl

mutual

theorem value?_documentWithin {depth : Nat} (inside : depth ≤ Document.maximalDepth) :
    (value : Json) → (value.documentWithin depth).value? =
      if depth + value.depth ≤ Document.maximalDepth then some value.settled else none
  | null => (if_pos inside).symm
  | bool _ => (if_pos inside).symm
  | num _ => (if_pos inside).symm
  | str _ => (if_pos inside).symm
  | arr items => by
      rw [documentWithin, value?_enclosed, Json.depth, settled]
      by_cases further : depth < Document.maximalDepth
      · rw [if_pos further, Document.value?, itemValues?_itemDocumentsWithin further items,
          Nat.succ_add_eq_add_succ]
        split <;> rfl
      · rw [if_neg further, if_neg (by omega)]
  | obj members => by
      rw [documentWithin, value?_enclosed, Json.depth, settled]
      by_cases further : depth < Document.maximalDepth
      · rw [if_pos further, Document.value?, memberValues?_memberDocumentsWithin further members,
          Nat.succ_add_eq_add_succ]
        split <;> rfl
      · rw [if_neg further, if_neg (by omega)]

theorem itemValues?_itemDocumentsWithin {depth : Nat} (inside : depth ≤ Document.maximalDepth) :
    (items : List Json) → Document.itemValues? (itemDocumentsWithin depth items) =
      if depth + itemsDepth items ≤ Document.maximalDepth then some (settledItems items) else none
  | [] => (if_pos inside).symm
  | item :: rest => by
      have both : depth + itemsDepth (item :: rest) ≤ Document.maximalDepth ↔
          depth + item.depth ≤ Document.maximalDepth ∧
            depth + itemsDepth rest ≤ Document.maximalDepth := by
        rw [itemsDepth]
        omega
      rw [itemDocumentsWithin, Document.itemValues?, value?_documentWithin inside item,
        itemValues?_itemDocumentsWithin inside rest, settledItems]
      simp only [both]
      by_cases itemInside : depth + item.depth ≤ Document.maximalDepth <;>
        by_cases restInside : depth + itemsDepth rest ≤ Document.maximalDepth <;>
          simp [itemInside, restInside]

theorem memberValues?_memberDocumentsWithin {depth : Nat}
    (inside : depth ≤ Document.maximalDepth) : (members : List (String × Json)) →
      Document.memberValues? (memberDocumentsWithin depth members) =
        if depth + membersDepth members ≤ Document.maximalDepth then some (settledMembers members)
        else none
  | [] => (if_pos inside).symm
  | (name, value) :: rest => by
      have both : depth + membersDepth ((name, value) :: rest) ≤ Document.maximalDepth ↔
          depth + value.depth ≤ Document.maximalDepth ∧
            depth + membersDepth rest ≤ Document.maximalDepth := by
        rw [membersDepth]
        omega
      rw [memberDocumentsWithin, Document.memberValues?, value?_documentWithin inside value,
        memberValues?_memberDocumentsWithin inside rest, settledMembers]
      simp only [both]
      by_cases valueInside : depth + value.depth ≤ Document.maximalDepth <;>
        by_cases restInside : depth + membersDepth rest ≤ Document.maximalDepth <;>
          simp [valueInside, restInside]

end

/-- The text of a value stands for the value with each name once, unless its brackets are too deep. -/
theorem ofText?_compact {value : Json} (numbersRead : value.NumbersRead) :
    ofText? value.compact =
      if value.depth ≤ Document.maximalDepth then some value.settled else none := by
  rw [ofText?, Document.ofText?_compact numbersRead, Option.bind_some,
    value?_documentWithin (Nat.zero_le _), Nat.zero_add]

end Json

end Formwork
