/-
This file recovers rules from the source text that declares them.
-/

import Formwork.Rule.Set
import Formwork.Text.Pieces
import Formwork.Text.Trim

namespace Formwork.RuleSet

def isQuote (c : Char) : Bool :=
  c == '\'' || c == '"'

/-- The texts between quotes, where any quote closes what any other opened. The text that is open
comes first, reversed. -/
def quotedTexts (opened : Option (List Char)) : List Char → List (List Char)
  | [] => []
  | c :: rest =>
      match opened with
      | none => quotedTexts (if isQuote c then some [] else none) rest
      | some reversed =>
          if isQuote c then reversed.reverse :: quotedTexts none rest
          else quotedTexts (some (c :: reversed)) rest

/-- Comments and lines without an arrow declare nothing. -/
def isDeclaring (line : List Char) : Bool :=
  !("//".toList.isPrefixOf line || "#".toList.isPrefixOf line) && Text.occursIn "=>".toList line

/-- The entry of a line: its first quoted text is a path, all others are rules. -/
def entryOfLine? (line : List Char) : Option (String × Declaration) :=
  let trimmed := Text.trim line
  if isDeclaring trimmed then
    match (quotedTexts none trimmed).map String.ofList with
    | path :: rule :: rules => some (path, .list ((rule :: rules).map .text))
    | _ => none
  else none

/-- The rules that the lines of a source text declare. -/
def scan (source : String) : RuleSet :=
  ofList ((Text.lines source.toList).filterMap entryOfLine?)

end Formwork.RuleSet

namespace Formwork

/-- Where the rules of a unit come from: evaluating it may fail, and its source text may be missing. -/
structure RuleSource where
  evaluated : Option RuleSet
  source : Option String

/-- The evaluated rules, or else what a scan of the source text recovers. -/
def RuleSource.rules (unit : RuleSource) : RuleSet :=
  match unit.evaluated, unit.source with
  | some rules, _ => rules
  | none, some source => .scan source
  | none, none => .empty

end Formwork
