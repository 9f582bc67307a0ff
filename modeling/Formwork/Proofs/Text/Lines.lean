/-
This file shows what a reader sees that reads a text line by line.
-/

import Formwork.Text.Character
import Formwork.Text.Pieces
import Mathlib.Data.List.Basic

namespace Formwork.Text

/-- White space that does not end a line. -/
def IsSpacing (cs : List Char) : Prop :=
  ∀ c ∈ cs, isBlank c = true ∧ c ≠ '\n'

instance : DecidablePred IsSpacing :=
  List.decidableBAll _

theorem IsSpacing.isBlank {cs : List Char} (spacing : IsSpacing cs) :
    ∀ c ∈ cs, Text.isBlank c = true :=
  fun c member => (spacing c member).1

theorem IsSpacing.oneLine {cs : List Char} (spacing : IsSpacing cs) : '\n' ∉ cs :=
  fun member => (spacing _ member).2 rfl

/-- A reader of lines who finds nothing in an empty line and does not look at a carriage return at
the end of a line. -/
structure IgnoresReturn {α : Type} (read : List Char → Option α) : Prop where
  empty : read [] = none
  concat : ∀ line, read (line ++ ['\r']) = read line

namespace IgnoresReturn

variable {α : Type} {read : List Char → Option α} (ignores : IgnoresReturn read)
include ignores

theorem dropReturn (line : List Char) : read (dropReturn line) = read line := by
  rw [Text.dropReturn]
  split
  · rename_i returns
    rw [beq_iff_eq] at returns
    obtain ⟨before, rfl⟩ := List.getLast?_eq_some_iff.mp returns
    rw [List.dropLast_concat, ignores.concat]
  · rfl

/-- To such a reader the lines of a text are the pieces between its line feeds. -/
theorem filterMap_lines (cs : List Char) :
    (lines cs).filterMap read = (pieces '\n' cs).filterMap read := by
  have ended (parts : List (List Char)) :
      (parts.map Text.dropReturn).filterMap read = parts.filterMap read := by
    rw [List.filterMap_map]
    exact List.filterMap_congr fun line _ => ignores.dropReturn line
  obtain ⟨before, last, isPieces⟩ : ∃ before last, pieces '\n' cs = before ++ [last] :=
    ⟨_, _, (List.dropLast_append_getLast (pieces_ne_nil '\n' cs)).symm⟩
  rw [lines, isPieces, List.getLast?_concat, List.dropLast_concat]
  cases last with
  | nil => simp [ended, ignores.empty]
  | cons c rest => simp only [List.filterMap_append, ended]

/-- Lines that are joined by line feeds are read one by one. -/
theorem filterMap_joined {parts : List (List Char)} (oneLine : ∀ line ∈ parts, '\n' ∉ line) :
    (lines (['\n'].intercalate parts)).filterMap read = parts.filterMap read := by
  rw [ignores.filterMap_lines]
  by_cases noLines : parts = []
  · rw [noLines]
    exact List.filterMap_cons_none ignores.empty
  · rw [pieces_intercalate noLines oneLine]

end IgnoresReturn

end Formwork.Text
