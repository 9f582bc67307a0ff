/-
This file turns declarations into tokens, one for each rule, and shows tokens to readers.
-/

import Formwork.Rule.Declaration
import Formwork.Text.Pieces
import Formwork.Text.SnakeCase
import Formwork.Text.Trim

namespace Formwork

namespace Declaration

/-- The rules of a text stand between pipes. -/
def textTokens (rules : String) : List String :=
  (Text.pieces '|' rules.toList).map String.ofList

mutual

def tokens : Declaration → List String
  | absent => []
  | unknown _ => []
  | text rules => textTokens rules
  | number value => [value.text]
  | bool value => [if value then "true" else "false"]
  | list items => itemTokens items
  | object rule => rule.token?.toList

def itemTokens : List Declaration → List String
  | [] => []
  | item :: rest => tokens item ++ itemTokens rest

end

end Declaration

/-- The last part of a class name. -/
def classBasename (className : List Char) : List Char :=
  Text.afterLast '\\' className

/-- How a token is shown: class names by their last part in snake case, all else as it is. A blank
token is not shown. -/
def shownToken? (token : String) : Option String :=
  match Text.trim token.toList with
  | [] => none
  | shown =>
      some (String.ofList
        (if shown.contains '\\' then Text.snakeCase (classBasename shown) else shown))

/-- The shown tokens, each once. -/
def shownTokens (tokens : List String) : List String :=
  (tokens.filterMap shownToken?).foldl
    (fun shown token => if shown.contains token then shown else shown ++ [token]) []

end Formwork
