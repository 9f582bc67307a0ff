/-
This file shows which whole numbers a field and its bounds keep.
-/

import Formwork.Proofs.Instance.Cast
import Formwork.Proofs.Number.Whole
import Formwork.Proofs.Resolve.Bound

namespace Formwork

/-- A whole number of 64 bits is sent as this integer by a field whose type is neither pinned nor
boolean, and as a bound it is this integer. A larger one that becomes a number at all becomes another
one, unless its bits, from the first to the last that is set, are at most 53. -/
theorem whole_kept_iff {text : String} {whole : Int} (writes : Numeral.Writes text.toList whole) :
    (∀ type : FieldType, type.isPinned = false → type ≠ .boolean →
      (Numeral.IsWord whole → type.cast (.str text) = .num (.int whole)) ∧
      ∀ number, type.cast (.str text) = .num number →
        (number.Denotes whole ↔ Numeral.IsWord whole ∨ Magnitude.Holds whole.natAbs)) ∧
    ∀ (declaration : Declaration) (tokens : List String) (bound : Bound) (parameter : List Char),
      bound.lastText? tokens = some parameter → Text.trim parameter = text.toList →
        (Numeral.IsWord whole →
          (Constraints.ofTokens declaration tokens).bound bound = some (.int whole)) ∧
        ∀ number, (Constraints.ofTokens declaration tokens).bound bound = some number →
          (number.Denotes whole ↔ Numeral.IsWord whole ∨ Magnitude.Holds whole.natAbs) := by
  constructor
  · intro type unpinned notBoolean
    have unblank : Numeral.Writes (Text.trim text.toList) whole := writes.trim_eq.symm ▸ writes
    rw [FieldType.cast_str unpinned notBoolean]
    simp only [FieldType.freeValue_eq_num_iff]
    exact ⟨fun isWord => Number.read?_eq_int_iff.mpr ⟨unblank, isWord⟩,
      fun number => Number.denotes_of_read? unblank⟩
  · intro declaration tokens bound parameter last spelled
    have unblank : Numeral.Writes (Text.trim parameter) whole := spelled.symm ▸ writes
    rw [Constraints.bound_ofTokens, last, Option.bind_some]
    exact ⟨fun isWord => Number.read?_eq_int_iff.mpr ⟨unblank, isWord⟩,
      fun number => Number.denotes_of_read? unblank⟩

/-- A power of two is kept, although 64 bits do not hold it. -/
theorem whole_kept_iff_power :
    let text := "-18446744073709551616"
    let tokens := ["numeric", "between: -18446744073709551616 ,+007"]
    Numeral.Writes text.toList (-18446744073709551616) ∧
      FieldType.number.isPinned = false ∧ FieldType.number ≠ .boolean ∧
      Bound.lower.lastText? tokens = some (" " ++ text ++ " ").toList ∧
      Text.trim (" " ++ text ++ " ").toList = text.toList ∧
      ∃ number : Number, FieldType.number.cast (.str text) = .num number ∧
        (Constraints.ofTokens (.list (tokens.map .text)) tokens).min = some number ∧
        number.Denotes (-18446744073709551616) := by
  intro text tokens
  have writes : Numeral.Writes text.toList (-18446744073709551616) := by decide
  have notBoolean : FieldType.number ≠ .boolean := by decide
  have last : Bound.lower.lastText? tokens = some (" " ++ text ++ " ").toList := by decide +kernel
  have spelled : Text.trim (" " ++ text ++ " ").toList = text.toList := by decide
  have sent : FieldType.number.cast (.str text) =
      .num (.float ⟨true, 1 <<< 52, 1086, by decide⟩) := by decide +kernel
  have read : (Constraints.ofTokens (.list (tokens.map .text)) tokens).min =
      some (.float ⟨true, 1 <<< 52, 1086, by decide⟩) := by decide +kernel
  have held : Magnitude.Holds 18446744073709551616 := by decide +kernel
  exact ⟨writes, rfl, notBoolean, last, spelled, _, sent, read,
    (((whole_kept_iff writes).1 .number rfl notBoolean).2 _ sent).mpr (.inr held)⟩

/-- The second whole number beyond 64 bits becomes the first one, as a value that is sent and as a
bound. -/
theorem whole_not_kept :
    let declaration := Declaration.text "max:9223372036854775809"
    Numeral.Writes "9223372036854775809".toList 9223372036854775809 ∧
      FieldType.number.isPinned = false ∧ FieldType.number ≠ .boolean ∧
      ∃ number : Number, FieldType.number.cast (.str "9223372036854775809") = .num number ∧
        (Constraints.ofTokens declaration declaration.tokens).max = some number ∧
        number.Denotes 9223372036854775808 ∧ ¬ number.Denotes 9223372036854775809 := by
  refine ⟨by decide, rfl, by decide, .float ⟨false, 1 <<< 52, 1085, by decide⟩, ?_⟩
  decide +kernel

end Formwork
