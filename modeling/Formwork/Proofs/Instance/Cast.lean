/-
This file shows what the type of a field makes of a value when it is sent: a second time the same,
and never anything that the type does not stand for.
-/

import Formwork.Instance.Payload
import Formwork.Schema.Example

namespace Formwork

namespace FieldType

theorem pinnedValue_pinnedValue (value : Json) :
    pinnedValue (pinnedValue value) = pinnedValue value := by
  cases value with
  | bool truth => cases truth <;> rfl
  | _ => rfl

theorem cast_of_isEmptyValue (type : FieldType) {value : Json}
    (isEmpty : InstanceNode.isEmptyValue value = true) : type.cast value = value := by
  unfold cast
  rw [if_pos isEmpty]

/-- A pinned type makes texts of scalars. No content is no exception, as it stays as it is. -/
theorem cast_of_isPinned {type : FieldType} (pinned : type.isPinned = true) (value : Json) :
    type.cast value = pinnedValue value := by
  unfold cast
  rw [if_pos pinned]
  split
  · cases value with
    | null => rfl
    | str => rfl
    | _ => contradiction
  · rfl

theorem cast_boolean {value : Json} (content : InstanceNode.isEmptyValue value = false) :
    boolean.cast value = .bool (truthOf value) := by
  unfold cast
  rw [content]
  rfl

theorem freeValue_empty (type : FieldType) : type.freeValue "" = .str "" := by
  simp [freeValue]
  rfl

section

variable {type : FieldType} (unpinned : type.isPinned = false) (notBoolean : type ≠ .boolean)
include unpinned notBoolean

theorem cast_str (content : String) : type.cast (.str content) = type.freeValue content := by
  by_cases isEmpty : content = ""
  · rw [isEmpty, freeValue_empty]
    exact cast_of_isEmptyValue type rfl
  · simp [cast, unpinned, notBoolean, InstanceNode.isEmptyValue, isEmpty]

/-- Types that are neither pinned nor boolean change texts only. -/
theorem cast_of_ne_str {value : Json} (noText : ∀ content, value ≠ .str content) :
    type.cast value = value := by
  cases isEmpty : InstanceNode.isEmptyValue value with
  | true => exact cast_of_isEmptyValue type isEmpty
  | false =>
      unfold cast
      rw [isEmpty, if_neg Bool.false_ne_true, unpinned, if_neg Bool.false_ne_true,
        if_neg notBoolean]
      split
      · exact absurd rfl (noText _)
      · rfl

end

/-- The text of a truth value becomes it, unless the type is numeric. -/
theorem freeValue_toString {type : FieldType} (notNumeric : type.isNumeric = false) (truth : Bool) :
    type.freeValue (toString truth) = .bool truth := by
  rw [freeValue, notNumeric]
  cases truth <;> rfl

/-- Any other text becomes the number that it spells, if it spells one. -/
theorem freeValue_of_ne {type : FieldType} {content : String}
    (noTruth : ∀ truth : Bool, type.isNumeric = false → content ≠ toString truth) :
    type.freeValue content = numberOrText content := by
  have notTrue : type.isNumeric = false → content ≠ "true" := noTruth true
  have notFalse : type.isNumeric = false → content ≠ "false" := noTruth false
  rw [freeValue, if_neg (by simpa using notTrue), if_neg (by simpa using notFalse)]

/-- What a text becomes: the truth value of which it is the text, the number that it spells, or
itself. -/
theorem freeValue_cases (type : FieldType) (content : String) :
    (∃ truth, type.isNumeric = false ∧ content = toString truth ∧
        type.freeValue content = .bool truth) ∨
      (∃ number, Number.read? content.toList = some number ∧
        type.freeValue content = .num number) ∨
      Number.read? content.toList = none ∧ type.freeValue content = .str content := by
  by_cases isTruth : ∃ truth : Bool, type.isNumeric = false ∧ content = toString truth
  · obtain ⟨truth, notNumeric, rfl⟩ := isTruth
    exact .inl ⟨truth, notNumeric, rfl, freeValue_toString notNumeric truth⟩
  · rw [freeValue_of_ne fun truth notNumeric isText => isTruth ⟨truth, notNumeric, isText⟩,
      numberOrText]
    cases read : Number.read? content.toList with
    | some number => exact .inr (.inl ⟨number, rfl, rfl⟩)
    | none => exact .inr (.inr ⟨rfl, rfl⟩)

theorem freeValue_eq_num_iff {type : FieldType} {content : String} {number : Number} :
    type.freeValue content = .num number ↔ Number.read? content.toList = some number := by
  rcases freeValue_cases type content with
    ⟨truth, -, rfl, sent⟩ | ⟨other, read, sent⟩ | ⟨noNumber, sent⟩
  · have noNumber : Number.read? (toString truth).toList = none := by cases truth <;> decide
    rw [sent, noNumber]
    exact ⟨nofun, nofun⟩
  · rw [sent, read, Json.num.injEq, Option.some_inj]
  · rw [sent, noNumber]
    exact ⟨nofun, nofun⟩

/-- What a type makes of a value, it leaves as it is. -/
theorem cast_cast (type : FieldType) (value : Json) :
    type.cast (type.cast value) = type.cast value := by
  cases pinned : type.isPinned with
  | true => rw [cast_of_isPinned pinned, cast_of_isPinned pinned, pinnedValue_pinnedValue]
  | false =>
      by_cases isBoolean : type = .boolean
      · subst isBoolean
        cases isEmpty : InstanceNode.isEmptyValue value with
        | true => rw [cast_of_isEmptyValue _ isEmpty, cast_of_isEmptyValue _ isEmpty]
        | false => rw [cast_boolean isEmpty, cast_boolean rfl, truthOf]
      · by_cases isText : ∃ content, value = .str content
        · obtain ⟨content, rfl⟩ := isText
          rw [cast_str pinned isBoolean]
          rcases type.freeValue_cases content with
            ⟨truth, -, -, sent⟩ | ⟨number, -, sent⟩ | ⟨-, left⟩
          · rw [sent]
            exact cast_of_ne_str pinned isBoolean nofun
          · rw [sent]
            exact cast_of_ne_str pinned isBoolean nofun
          · rw [left, cast_str pinned isBoolean, left]
        · rw [cast_of_ne_str pinned isBoolean fun content same => isText ⟨content, same⟩,
            cast_of_ne_str pinned isBoolean fun content same => isText ⟨content, same⟩]

/-- A text that a type sends is sent again as it is. -/
theorem cast_of_cast {type : FieldType} {value : Json} {content : String}
    (sent : type.cast value = .str content) : type.cast (.str content) = .str content := by
  rw [← sent, cast_cast]

end FieldType

/-- A type that a value was sent by sends the result as it is. Of a scalar a pinned type makes a
text or null, and the boolean type a truth value, unless there is no content. All other types leave
a scalar as it is, but for a text that spells a number and for the text of a truth value, which a
numeric type leaves as well. -/
theorem cast_settles (type : FieldType) (value : Json) :
    type.cast (type.cast value) = type.cast value ∧
      (SchemaNode.isNested value = false →
        (type.isPinned = true →
          type.cast value = .null ∨ ∃ content, type.cast value = .str content) ∧
        (type = .boolean →
          (∃ truth, type.cast value = .bool truth) ∨
            (value = .null ∨ value = .str "") ∧ type.cast value = value) ∧
        (type.isPinned = false → type ≠ .boolean →
          (∀ content, value = .str content →
            (∃ truth, type.isNumeric = false ∧ content = toString truth ∧
                type.cast value = .bool truth) ∨
              (∃ number, Number.read? content.toList = some number ∧
                type.cast value = .num number) ∨
              Number.read? content.toList = none ∧ type.cast value = value) ∧
          ((∀ content, value ≠ .str content) → type.cast value = value))) := by
  refine ⟨type.cast_cast value, fun isScalar => ⟨fun pinned => ?_, fun isBoolean => ?_,
    fun unpinned notBoolean => ⟨fun content isText => ?_, fun noText => ?_⟩⟩⟩
  · rw [FieldType.cast_of_isPinned pinned]
    match value with
    | .null => exact .inl rfl
    | .bool true => exact .inr ⟨_, rfl⟩
    | .bool false => exact .inr ⟨_, rfl⟩
    | .num number => exact .inr ⟨_, rfl⟩
    | .str content => exact .inr ⟨_, rfl⟩
  · subst isBoolean
    cases isEmpty : InstanceNode.isEmptyValue value with
    | true =>
        refine .inr ⟨?_, FieldType.cast_of_isEmptyValue _ isEmpty⟩
        cases value with
        | null => exact .inl rfl
        | str content => exact .inr (congrArg _ (String.isEmpty_iff.mp isEmpty))
        | _ => contradiction
    | false => exact .inl ⟨_, FieldType.cast_boolean isEmpty⟩
  · rw [isText, FieldType.cast_str unpinned notBoolean]
    exact type.freeValue_cases content
  · exact FieldType.cast_of_ne_str unpinned notBoolean noText

/-- A number field leaves the text of a truth value, and a choice that spells a number is sent as
the number from the first time on. -/
theorem cast_settles_number :
    SchemaNode.isNested (.str "true") = false ∧
      FieldType.number.isPinned = false ∧ FieldType.number ≠ .boolean ∧
      FieldType.number.cast (.str "true") = .str "true" ∧
      FieldType.select.cast (FieldType.select.cast (.str "007")) = .num (.int 7) := by
  have notBoolean : FieldType.number ≠ .boolean := by decide
  have noNumber : Number.read? "true".toList = none := by decide
  refine ⟨rfl, rfl, notBoolean, ?_, (cast_settles .select (.str "007")).1.trans (by decide)⟩
  rcases (((cast_settles .number (.str "true")).2 rfl).2.2 rfl notBoolean).1 "true" rfl with
    ⟨_, notNumeric, -⟩ | ⟨number, read, -⟩ | ⟨-, left⟩
  · cases notNumeric
  · cases noNumber.symm.trans read
  · exact left

end Formwork
