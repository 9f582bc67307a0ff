/-
This file shows which texts a template matches: those that consist of its pieces, in order and as
they are, with a text of one line in place of each wildcard.
-/

import Formwork.Text.Glob

namespace Formwork.Text

/-! What a template means. -/

/-- The pieces of a text between the occurrences of a mark: the first one ends where the mark occurs
for the first time, and the others are the pieces of what follows this occurrence. -/
inductive CutAt (mark : List Char) : List Char → List (List Char) → Prop where
  | whole {cs : List Char} (absent : ¬ mark <:+: cs) : CutAt mark cs [cs]
  | cut {piece rest : List Char} {others : List (List Char)}
      (leftmost : ∀ before after, piece ++ mark ++ rest = before ++ mark ++ after →
        piece.length ≤ before.length)
      (following : CutAt mark rest others) : CutAt mark (piece ++ mark ++ rest) (piece :: others)

/-- The pieces in order, with a text of one line between any two of them. -/
inductive Filled : List (List Char) → List Char → Prop where
  | last (piece : List Char) : Filled [piece] piece
  | gap (piece : List Char) {others : List (List Char)} {filling cs : List Char}
      (oneLine : '\n' ∉ filling) (following : Filled others cs) :
      Filled (piece :: others) (piece ++ filling ++ cs)

/-- A text that a template stands for. The template is cut at its wildcards; without a wildcard to
look for it stands for itself alone. -/
def Globs (wildcard template key : String) : Prop :=
  if wildcard = "" then key = template
  else ∃ pieces, CutAt wildcard.toList template.toList pieces ∧ Filled pieces key.toList

/-! Pieces. -/

section Pieces

variable {mark : List Char}

/-- Pieces of a text with one more character, where no mark begins. -/
theorem CutAt.cons {c : Char} {cs first : List Char} {others : List (List Char)}
    (unmarked : ¬ mark <+: c :: cs) (isCut : CutAt mark cs (first :: others)) :
    CutAt mark (c :: cs) ((c :: first) :: others) := by
  cases isCut with
  | whole absent => exact .whole (by simp [List.infix_cons_iff, unmarked, absent])
  | @cut _ rest _ leftmost following =>
      refine @CutAt.cut mark (c :: first) rest others (fun before after same => ?_) following
      cases before with
      | nil => exact absurd ⟨after, same.symm⟩ unmarked
      | cons d before => simpa using leftmost before after (List.cons.inj same).2

theorem cutAt_piecesAtFrom (nonempty : mark ≠ []) (skip : Nat) (cs : List Char) :
    CutAt mark (cs.drop skip) (piecesAtFrom mark skip cs) := by
  induction cs generalizing skip with
  | nil =>
      rw [List.drop_nil]
      exact .whole (by rwa [List.infix_nil])
  | cons c rest inductionHypothesis =>
      cases skip with
      | succ skip => exact inductionHypothesis skip
      | zero =>
          rw [List.drop_zero, piecesAtFrom]
          split
          · rename_i marked
            obtain ⟨after, whole⟩ := List.isPrefixOf_iff_prefix.mp marked
            have following := inductionHypothesis (mark.length - 1)
            have isAfter : rest.drop (mark.length - 1) = after := by
              obtain ⟨d, others, rfl⟩ := List.exists_cons_of_ne_nil nonempty
              rw [List.cons_append, List.cons.injEq] at whole
              simp [← whole.2]
            rw [isAfter] at following
            rw [← whole]
            exact @CutAt.cut mark [] after _ (fun before _ _ => Nat.zero_le before.length) following
          · rename_i unmarked
            rw [List.isPrefixOf_iff_prefix] at unmarked
            have following := inductionHypothesis 0
            cases isPieces : piecesAtFrom mark 0 rest with
            | nil =>
                rw [isPieces] at following
                cases following
            | cons first others => exact (isPieces ▸ following).cons unmarked

/-- A text has only one list of pieces. -/
theorem CutAt.unique {cs : List Char} {pieces others : List (List Char)}
    (isCut : CutAt mark cs pieces) (otherCut : CutAt mark cs others) : pieces = others := by
  induction isCut generalizing others with
  | whole absent =>
      cases otherCut with
      | whole => rfl
      | @cut piece rest => exact absurd ⟨piece, rest, rfl⟩ absent
  | @cut piece rest _ leftmost following inductionHypothesis =>
      generalize same : piece ++ mark ++ rest = cs at otherCut
      cases otherCut with
      | whole absent => exact absurd ⟨piece, rest, same⟩ absent
      | @cut other otherRest _ otherLeftmost otherFollowing =>
          have sameLength : piece.length = other.length :=
            Nat.le_antisymm (leftmost _ _ same) (otherLeftmost _ _ same.symm)
          rw [List.append_assoc, List.append_assoc] at same
          obtain ⟨samePiece, sameRest⟩ := List.append_inj same sameLength
          rw [samePiece, inductionHypothesis (List.append_cancel_left sameRest ▸ otherFollowing)]

/-- The pieces between the leftmost occurrences of a mark are those that a text is cut into. -/
theorem cutAt_iff (nonempty : mark ≠ []) {cs : List Char} {pieces : List (List Char)} :
    CutAt mark cs pieces ↔ pieces = piecesAt mark cs :=
  ⟨fun isCut => isCut.unique (cutAt_piecesAtFrom nonempty 0 cs),
    fun same => same ▸ cutAt_piecesAtFrom nonempty 0 cs⟩

theorem CutAt.ne_nil {cs : List Char} {pieces : List (List Char)}
    (isCut : CutAt mark cs pieces) : pieces ≠ [] := by
  cases isCut <;> exact List.cons_ne_nil _ _

end Pieces

namespace Glob

/-! Rows. The row of a text begins with the answer for the whole text and goes on with the row of the
text without its first character. -/

/-- The row of the text without its first character. -/
def laterRow (glob : Glob) : List Char → List Bool
  | [] => []
  | _ :: rest => row rest glob

theorem row_eq (glob : Glob) (cs : List Char) :
    row cs glob = glob.accepts cs :: glob.laterRow cs := by
  induction glob generalizing cs with
  | nil => cases cs <;> rfl
  | cons part glob inductionHypothesis =>
      cases cs with
      | nil => cases part <;> rw [accepts, row, inductionHypothesis] <;> rfl
      | cons c rest =>
          cases part with
          | none =>
              rw [accepts, row, inductionHypothesis]
              rfl
          | some expected =>
              have next := inductionHypothesis rest
              rw [accepts, row, inductionHypothesis, laterRow, laterRow, row, next]
              rfl

/-! One answer from the others. -/

theorem accepts_end (cs : List Char) : accepts [] cs = true ↔ cs = [] := by
  cases cs <;> simp [accepts, row, emptyRow]

theorem accepts_char (expected : Char) (glob : Glob) (cs : List Char) :
    accepts (some expected :: glob) cs = true ↔
      ∃ rest, cs = expected :: rest ∧ glob.accepts rest = true := by
  cases cs with
  | nil => simp [accepts, row, charRow]
  | cons c rest =>
      have next := row_eq glob rest
      rw [accepts, row, row_eq glob, laterRow, next, charRow, List.headD_cons, Bool.and_eq_true,
        beq_iff_eq]
      simp [and_assoc]

theorem accepts_wildcard_nil (glob : Glob) : accepts (none :: glob) [] = glob.accepts [] := by
  rw [accepts, row, row_eq glob]
  rfl

theorem accepts_wildcard_cons (glob : Glob) (c : Char) (rest : List Char) :
    accepts (none :: glob) (c :: rest) =
      (glob.accepts (c :: rest) || c != '\n' && accepts (none :: glob) rest) := by
  rw [accepts, row, row_eq glob]
  rfl

/-- A wildcard takes any text of one line. -/
theorem accepts_wildcard (glob : Glob) (cs : List Char) :
    accepts (none :: glob) cs = true ↔
      ∃ filling rest, cs = filling ++ rest ∧ '\n' ∉ filling ∧ glob.accepts rest = true := by
  induction cs with
  | nil =>
      rw [accepts_wildcard_nil]
      constructor
      · exact fun accepted => ⟨[], [], rfl, List.not_mem_nil, accepted⟩
      · rintro ⟨filling, rest, whole, -, accepted⟩
        rwa [(List.append_eq_nil_iff.mp whole.symm).2] at accepted
  | cons c rest inductionHypothesis =>
      rw [accepts_wildcard_cons, Bool.or_eq_true, Bool.and_eq_true, inductionHypothesis,
        bne_iff_ne]
      constructor
      · rintro (here | ⟨sameLine, filling, others, rfl, oneLine, accepted⟩)
        · exact ⟨[], c :: rest, rfl, List.not_mem_nil, here⟩
        · exact ⟨c :: filling, others, rfl, by simp [oneLine, Ne.symm sameLine], accepted⟩
      · rintro ⟨filling, others, whole, oneLine, accepted⟩
        cases filling with
        | nil => exact .inl (whole ▸ accepted)
        | cons d filling =>
            obtain ⟨rfl, rfl⟩ := List.cons.inj whole
            rw [List.mem_cons, not_or] at oneLine
            exact .inr ⟨Ne.symm oneLine.1, filling, others, rfl, oneLine.2, accepted⟩

/-- Characters stand for themselves. -/
theorem accepts_literal (piece : List Char) (glob : Glob) (cs : List Char) :
    accepts (piece.map some ++ glob) cs = true ↔
      ∃ rest, cs = piece ++ rest ∧ glob.accepts rest = true := by
  induction piece generalizing cs with
  | nil => simp
  | cons c piece inductionHypothesis =>
      rw [List.map_cons, List.cons_append, accepts_char]
      simp only [inductionHypothesis, List.cons_append]
      constructor
      · rintro ⟨_, rfl, rest, rfl, accepted⟩
        exact ⟨rest, rfl, accepted⟩
      · rintro ⟨rest, rfl, accepted⟩
        exact ⟨_, rfl, rest, rfl, accepted⟩

theorem accepts_plain (piece cs : List Char) : accepts (piece.map some) cs = true ↔ cs = piece := by
  have literal := accepts_literal piece [] cs
  simpa [accepts_end] using literal

/-- A template of pieces with wildcards between them is filled. -/
theorem accepts_intercalate {pieces : List (List Char)} (nonempty : pieces ≠ [])
    (cs : List Char) :
    accepts ([none].intercalate (pieces.map (·.map some))) cs = true ↔ Filled pieces cs := by
  induction pieces generalizing cs with
  | nil => contradiction
  | cons piece others inductionHypothesis =>
      cases others with
      | nil =>
          rw [List.map_singleton, List.intercalate_singleton, accepts_plain]
          constructor
          · exact fun same => same ▸ .last piece
          · intro filled
            cases filled with
            | last => rfl
            | gap _ _ following => cases following
      | cons next others =>
          rw [List.map_cons, List.map_cons, List.intercalate_cons_cons, List.append_assoc,
            accepts_literal]
          simp only [List.singleton_append, accepts_wildcard, ← List.map_cons,
            inductionHypothesis (List.cons_ne_nil _ _)]
          constructor
          · rintro ⟨_, rfl, filling, rest, rfl, oneLine, filled⟩
            rw [← List.append_assoc]
            exact .gap piece oneLine filled
          · intro filled
            cases filled with
            | @gap _ _ filling rest oneLine following =>
                exact ⟨filling ++ rest, List.append_assoc _ _ _, filling, rest, rfl, oneLine,
                  following⟩

theorem accepts_ofTemplate_iff (wildcard template key : String) :
    accepts (ofTemplate wildcard.toList template.toList) key.toList = true ↔
      Globs wildcard template key := by
  by_cases noWildcard : wildcard = ""
  · rw [Globs, if_pos noWildcard, ofTemplate, if_pos (by simp [noWildcard]), accepts_plain,
      String.toList_inj]
  · have nonempty : wildcard.toList ≠ [] := by simpa using noWildcard
    have isCut : CutAt _ template.toList _ := (cutAt_iff nonempty).mpr rfl
    rw [Globs, if_neg noWildcard, ofTemplate, if_neg (by simpa using noWildcard),
      accepts_intercalate isCut.ne_nil]
    simp only [cutAt_iff nonempty, exists_eq_left]

end Glob

instance (wildcard template key : String) : Decidable (Globs wildcard template key) :=
  decidable_of_iff _ (Glob.accepts_ofTemplate_iff wildcard template key)

/-- A key matches a template that compiles exactly if the template stands for it. -/
theorem globMatches_eq_globs [PatternEngine] {wildcard template : String}
    (compiled : PatternEngine.compiles
      (.template (Glob.ofTemplate wildcard.toList template.toList)) = true) (key : String) :
    globMatches wildcard template key = decide (Globs wildcard template key) := by
  rw [globMatches, compiled, Bool.true_and, Bool.eq_iff_iff, decide_eq_true_iff,
    Glob.accepts_ofTemplate_iff]

end Formwork.Text
