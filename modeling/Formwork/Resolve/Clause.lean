/-
This file reads the constraints of a field from its tokens.
-/

import Formwork.Number.Numeral
import Formwork.Resolve.TypeTier
import Formwork.Rule.Declaration
import Formwork.Schema.Constraints

namespace Formwork

/-- What one token says about the values of a field. A parameter that cannot be read is missing. -/
inductive Clause where
  | required
  | nullable
  | confirmed
  | conditional (clause : Conditional)
  | min (bound : Option Number)
  | max (bound : Option Number)
  | size (bound : Option Number)
  | between (low high : Option Number)
  | pattern (source : Option String)
  | accept (extensions : Option String)
  | dimensions (values : Option (SortedEntries String))
deriving DecidableEq

namespace Conditional

/-- The conditional rules on one field and a value of it. -/
def singleField : List String :=
  ["required_if", "required_unless", "prohibited_if", "prohibited_unless", "exclude_if",
    "exclude_unless"]

/-- The conditional rules on a list of fields. -/
def manyFields : List String :=
  ["required_with", "required_with_all", "required_without", "required_without_all",
    "exclude_with", "exclude_without"]

/-- The rules that only mean something without parameters. -/
def standalone : List String :=
  ["prohibited"]

/-- The conditional clause of a token. The rule is read in lower case, its parameters as they are. -/
def ofToken? (lower token : List Char) : Option Conditional :=
  let name := ruleName lower
  if singleField.contains name || manyFields.contains name || standalone.contains name then
    match Text.cutFirst? ':' token with
    | none => some { rule := name }
    | some (_, parameters) =>
        let parts := (Text.pieces ',' parameters).map fun part => String.ofList (Text.trim part)
        if singleField.contains name then
          some { rule := name, field := parts.head?, value := some (parts[1]?.getD "") }
        else if manyFields.contains name then some { rule := name, fields := some parts }
        else none
  else none

end Conditional

namespace Clause

def patternBeginning : List Char := "regex:".toList

/-- The declared text that a pattern token begins, where the pattern is not cut at a pipe. -/
def wholePattern (declaration : Declaration) (token : List Char) : List Char :=
  let declared := declaration.texts.map fun text => Text.trim text.toList
  (declared.find? fun text =>
    patternBeginning.isPrefixOf (Text.lowercase text) && token.isPrefixOf text).getD token

/-- The delimiter that closes a pattern. -/
def closing (delimiter : Char) : Char :=
  if delimiter = '(' then ')'
  else if delimiter = '{' then '}'
  else if delimiter = '[' then ']'
  else if delimiter = '<' then '>'
  else delimiter

/-- A pattern that is not blank and closes the delimiter that it opens. -/
def pattern? (source : List Char) : Option String :=
  match Text.trim source with
  | [] => none
  | first :: body =>
      if Text.isAlphanumeric first || first == '\\' || Text.isBlank first ||
          body.contains (closing first) then
        some (String.ofList (first :: body))
      else none

/-- The extensions of a comma separated list, each with a point before it. -/
def accept? (parameters : List Char) : Option String :=
  let extensions := ((Text.pieces ',' parameters).map Text.trim).filter (!·.isEmpty)
  if extensions.isEmpty then none
  else some (String.ofList ([','].intercalate (extensions.map ('.' :: ·))))

def dimension? (part : List Char) : Option (String × String) :=
  (Text.cutFirst? '=' (Text.trim part)).map fun (name, value) =>
    (String.ofList (Text.trim name), String.ofList (Text.trim value))

/-- The dimensions of a comma separated list; parts that are none are left out. -/
def dimensions? (parameters : List Char) : Option (SortedEntries String) :=
  match (Text.pieces ',' parameters).filterMap dimension? with
  | [] => none
  | parts => some (.ofList parts)

/-- A range has exactly two bounds. -/
def between? (parameters : List Char) : Option Clause :=
  match Text.pieces ',' parameters with
  | [low, high] => some (between (Number.read? low) (Number.read? high))
  | _ => none

def ofPattern (declaration : Declaration) (token : List Char) : Clause :=
  pattern ((Text.afterBytes? 6 (wholePattern declaration token)).bind pattern?)

/-- The rules with parameters, by what their tokens begin with, and their clauses. -/
def parameterRules (declaration : Declaration) (token : List Char) :
    List (String × (List Char → Option Clause)) :=
  [ ("min:", fun parameter => some (min (Number.read? parameter))),
    ("max:", fun parameter => some (max (Number.read? parameter))),
    ("size:", fun parameter => some (size (Number.read? parameter))),
    ("between:", between?),
    ("regex:", fun _ => some (ofPattern declaration token)),
    ("extensions:", fun parameters => some (accept (accept? parameters))),
    ("mimes:", fun parameters => some (accept (accept? parameters))),
    ("dimensions:", fun parameters => some (dimensions (dimensions? parameters))) ]

/-- Whether a class name ends like the rules that require a field. -/
def isRequiredClass (lower : List Char) : Bool :=
  endsWithAny ["\\requiredif", "\\required"] lower

/-- The clause of a trimmed token and its lower case. -/
def classify? (declaration : Declaration) (lower token : List Char) : Option Clause :=
  if lower = "required".toList then some required
  else if lower = "nullable".toList then some nullable
  else if lower = "confirmed".toList then some confirmed
  else
    match Conditional.ofToken? lower token with
    | some clause => some (conditional clause)
    | none =>
        let parameter? := (parameterRules declaration token).findSome? fun (beginning, clause?) =>
          (beginning.toList.isPrefixOf? lower).map clause?
        match parameter? with
        | some clause => clause
        | none => if isRequiredClass lower then some required else none

def ofToken? (declaration : Declaration) (token : String) : Option Clause :=
  let trimmed := Text.trim token.toList
  classify? declaration (Text.lowercase trimmed) trimmed

end Clause

namespace Constraints

/-- A clause replaces what earlier ones said about the same, and conditional clauses add up. -/
def add (constraints : Constraints) : Clause → Constraints
  | .required => { constraints with required := true }
  | .nullable => { constraints with nullable := true }
  | .confirmed => { constraints with confirmed := true }
  | .conditional clause =>
      { constraints with conditionals := constraints.conditionals ++ [clause] }
  | .min bound => { constraints with min := bound }
  | .max bound => { constraints with max := bound }
  | .size bound => { constraints with min := bound, max := bound }
  | .between low high => { constraints with min := low, max := high }
  | .pattern source => { constraints with pattern := source }
  | .accept extensions => { constraints with accept := extensions }
  | .dimensions values => { constraints with dimensions := values }

/-- The constraints of the tokens in order. Patterns are looked up in the declaration. -/
def ofTokens (declaration : Declaration) (tokens : List String) : Constraints :=
  (tokens.filterMap (Clause.ofToken? declaration)).foldl add {}

end Constraints

end Formwork
