/-
This file matches texts against templates in which a wildcard stands for any text of one line.
-/

import Formwork.Pattern
import Formwork.Text.Pieces

namespace Formwork.Text

namespace Glob

/-- Empty wildcards stand nowhere. -/
def ofTemplate (wildcard template : List Char) : Glob :=
  if wildcard.isEmpty then template.map some
  else [none].intercalate ((piecesAt wildcard template).map (·.map some))

/-! For each end of a text, from the whole text to the empty one, a row says whether it matches. -/

/-- The row of the empty template. -/
def emptyRow : List Char → List Bool
  | [] => [true]
  | _ :: rest => false :: emptyRow rest

/-- The row of a template behind a character. -/
def charRow (expected : Char) : List Char → List Bool → List Bool
  | c :: rest, _ :: next :: row => (c == expected && next) :: charRow expected rest (next :: row)
  | _, _ => [false]

/-- The row of a template behind a wildcard, which takes no line feed. -/
def wildcardRow : List Char → List Bool → List Bool
  | c :: rest, here :: row =>
      let later := wildcardRow rest row
      (here || (c != '\n' && later.headD false)) :: later
  | _, row => row

def row (cs : List Char) : Glob → List Bool
  | [] => emptyRow cs
  | some expected :: glob => charRow expected cs (row cs glob)
  | none :: glob => wildcardRow cs (row cs glob)

/-- Whether a text matches a template as a whole. -/
def accepts (glob : Glob) (cs : List Char) : Bool :=
  (row cs glob).headD false

end Glob

/-- Whether the key matches the template. A template that does not compile matches nothing. -/
def globMatches [PatternEngine] (wildcard template key : String) : Bool :=
  let glob := Glob.ofTemplate wildcard.toList template.toList
  PatternEngine.compiles (.template glob) && glob.accepts key.toList

/-- A template holds a wildcard next to other text. -/
def isTemplate (wildcard key : String) : Bool :=
  !wildcard.isEmpty && occursIn wildcard.toList key.toList && key != wildcard

theorem isTemplate_iff (wildcard key : String) :
    isTemplate wildcard key = true ↔
      wildcard ≠ "" ∧ wildcard.toList <:+: key.toList ∧ key ≠ wildcard := by
  simp [isTemplate, occursIn_iff, and_assoc]

end Formwork.Text
