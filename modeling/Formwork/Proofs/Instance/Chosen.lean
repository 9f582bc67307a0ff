/-
This file shows how a choice is sent: as the text that was chosen, unless this text spells a number
in another way than numbers are written.
-/

import Formwork.Proofs.Instance.Hydrated
import Formwork.Proofs.Number.Plain
import Formwork.Resolve.Field

namespace Formwork

namespace FieldType

theorem pinnedValue_num_eq_iff (number : Number) (content : String) :
    pinnedValue (.num number) = .str content ↔ number.text = content := by
  rw [pinnedValue, Json.str.injEq]

/-- A choice that spells no number is sent as its text. -/
theorem pinnedValue_cast_select {content : String}
    (noNumber : Number.read? content.toList = none) :
    pinnedValue (select.cast (.str content)) = .str content := by
  rw [cast_str rfl (by decide)]
  rcases freeValue_cases select content with
    ⟨truth, -, rfl, sent⟩ | ⟨number, read, -⟩ | ⟨-, sent⟩
  · rw [sent]
    cases truth <;> rfl
  · cases noNumber.symm.trans read
  · rw [sent]
    rfl

/-- Any other one is sent as the number. -/
theorem cast_select_of_read? {content : String} {number : Number}
    (read : Number.read? content.toList = some number) :
    select.cast (.str content) = .num number := by
  rw [cast_str rfl (by decide), freeValue_eq_num_iff, read]

end FieldType

/-- The value of a field of choices that holds one of them. A choice that spells no number is sent
as its text, or as the truth value whose text it is. A whole number of 64 bits is sent as an
integer, whose text is the choice exactly if it is spelled without anything that could be left out.
A number with a fraction or an exponent is sent as a floating point number, whose text is the choice
exactly if it is spelled like such numbers are written. -/
theorem choice_sent (options : CompileOptions) (path : String) (declaration : Declaration)
    (choices : List Json) (choice : String) (node : InstanceNode) :
    let info := FieldInfo.ofRules options path declaration
    info.type = .select → info.options = some choices → .str choice ∈ choices →
      node.type = info.type → node.enabled = true → node.value = .str choice →
      ∃ value, InstanceNode.payloadItems [node] = [value] ∧
        (node.key ≠ "" → payload [node] = .obj [(node.key, value)]) ∧
        (Number.read? choice.toList = none → FieldType.pinnedValue value = .str choice) ∧
        (∀ whole, Numeral.Writes (Text.trim choice.toList) whole → Numeral.IsWord whole →
          value = .num (.int whole) ∧
            (FieldType.pinnedValue value = .str choice ↔
              Numeral.isPlain choice.toList = true)) ∧
        ∀ number, Number.read? choice.toList = some number →
          (∀ whole, ¬ Numeral.Writes (Text.trim choice.toList) whole) →
            ∃ decimal, value = .num (.float decimal) ∧ number = .float decimal ∧
              (FieldType.pinnedValue value = .str choice ↔ decimal.chars = choice.toList) := by
  intro info selects _ _ typed enabled held
  have isSelect : node.type = .select := typed.trans selects
  have sent : node.payloadValue = FieldType.select.cast (.str choice) := by
    rw [InstanceNode.payloadValue_of_scalar (by rw [InstanceNode.shape, isSelect]; rfl), isSelect,
      held]
  refine ⟨FieldType.select.cast (.str choice), ?_, fun named => ?_,
    FieldType.pinnedValue_cast_select, fun whole writes isWord => ?_, fun number read other => ?_⟩
  · rw [InstanceNode.payloadItems, enabled, sent]
    rfl
  · have member : InstanceNode.payloadMembers [node] =
        [(node.key, FieldType.select.cast (.str choice))] := by
      simp [InstanceNode.payloadMembers, enabled, named, sent]
    rw [payload, member]
    rfl
  · have read : Number.read? choice.toList = some (.int whole) :=
      Number.read?_eq_int_iff.mpr ⟨writes, isWord⟩
    rw [FieldType.cast_select_of_read? read, FieldType.pinnedValue_num_eq_iff]
    refine ⟨rfl, ?_⟩
    rw [Number.text, ← String.toList_inj, String.toList_ofList, Numeral.integerChars_eq_iff writes]
  · rw [FieldType.cast_select_of_read? read, FieldType.pinnedValue_num_eq_iff]
    cases number with
    | int whole => exact absurd (Number.read?_eq_int_iff.mp read).1 (other whole)
    | float decimal =>
        refine ⟨decimal, rfl, rfl, ?_⟩
        rw [Number.text, ← String.toList_inj, String.toList_ofList]

/-- A choice of minus seven is sent as the integer, and has its text. -/
theorem choice_sent_floor :
    let info := FieldInfo.ofRules {} "floor" (.text "required|in:-7,\"+1\",attic")
    let choices := [.str "-7", .str "+1", .str "attic"]
    let node := { InstanceNode.fresh "floor" .select with value := .str "-7" }
    info.type = .select ∧ info.options = some choices ∧ .str "-7" ∈ choices ∧
      node.type = info.type ∧ node.enabled = true ∧ node.value = .str "-7" ∧
      payload [node] = .obj [("floor", .num (.int (-7)))] ∧
      FieldType.pinnedValue (.num (.int (-7))) = .str "-7" := by
  intro info choices node
  have selects : info.type = .select := by decide +kernel
  have listed : info.options = some choices := by decide +kernel
  have member : .str "-7" ∈ choices := List.mem_cons_self
  have writes : Numeral.Writes (Text.trim "-7".toList) (-7) := by decide
  obtain ⟨value, -, body, -, integer, -⟩ :=
    choice_sent {} "floor" _ choices "-7" node selects listed member selects.symm rfl rfl
  obtain ⟨rfl, plain⟩ := integer (-7) writes (by decide)
  exact ⟨selects, listed, member, selects.symm, rfl, rfl, body (by decide),
    plain.mpr (by decide)⟩

/-- A choice with zeros in front of a number is sent as the number, whose text is not the choice. -/
theorem choice_respelled :
    let info := FieldInfo.ofRules {} "code" (.text "in:007,008")
    let choices := [.str "007", .str "008"]
    let node := { InstanceNode.fresh "code" .select with value := .str "007" }
    info.type = .select ∧ info.options = some choices ∧ .str "007" ∈ choices ∧
      node.type = info.type ∧ node.enabled = true ∧ node.value = .str "007" ∧
      payload [node] = .obj [("code", .num (.int 7))] ∧
      FieldType.pinnedValue (.num (.int 7)) = .str "7" ∧ Json.str "7" ≠ .str "007" := by
  decide +kernel

end Formwork
