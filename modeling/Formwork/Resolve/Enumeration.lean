/-
This file finds the values to choose from and the names of custom rules.
-/

import Formwork.CompileOptions
import Formwork.Rule.Token

namespace Formwork.Enumeration

def beginning : List Char := "in:".toList

/-- A value of an enumeration rule while it is read. -/
structure Reading where
  reversed : List Char := []
  /-- The value began with a quote. -/
  quoted : Bool := false

/-- A value without quotes loses the white space around it. -/
def Reading.value (reading : Reading) : String :=
  String.ofList (if reading.quoted then reading.reversed.reverse
    else Text.trim reading.reversed.reverse)

def Reading.push (reading : Reading) (c : Char) : Reading :=
  { reading with reversed := c :: reading.reversed }

/-- A quote opens a value that is blank so far and had no quote yet. -/
def Reading.opens (reading : Reading) : Bool :=
  (Text.trim reading.reversed).isEmpty && !reading.quoted

/-- The values between commas, inside quotes or not. Inside quotes a comma is a comma, and a quote is
written twice. -/
def readValues (inside : Bool) (reading : Reading) : List Char → List String
  | [] => [reading.value]
  | '"' :: rest =>
      match inside, rest with
      | true, '"' :: rest => readValues true (reading.push '"') rest
      | true, rest => readValues false reading rest
      | false, rest =>
          if reading.opens then readValues true { reversed := [], quoted := true } rest
          else readValues false (reading.push '"') rest
  | ',' :: rest =>
      if inside then readValues true (reading.push ',') rest
      else reading.value :: readValues false {} rest
  | c :: rest => readValues inside (reading.push c) rest

/-- The values that an enumeration token lists. -/
def tokenValues? (token : String) : Option (List Json) :=
  let trimmed := Text.trim token.toList
  if beginning.isPrefixOf (Text.lowercase trimmed) then
    (Text.afterBytes? 3 trimmed).map fun values => (readValues false {} values).map .str
  else none

/-- The values that a rule object lists. -/
def objectValues? : RuleObject → Option (List Json)
  | .oneOf values => some values
  | .enum (some type) => some (type.cases.map EnumCase.choice)
  | .enumRef _ cases => some (cases.map EnumCase.choice)
  | _ => none

/-- The values to choose from: of the last rule object that lists some, else of the last token. -/
def choices? (declaration : Declaration) (tokens : List String) : Option (List Json) :=
  (declaration.objects.filterMap objectValues?).getLast? <|>
    (tokens.filterMap tokenValues?).getLast?

/-- The name that a class outside the framework gives to the type of its field: its own name, else
the last part of the class name in snake case. -/
def customName? (options : CompileOptions) : RuleObject → Option String
  | .named className name _ =>
      let isFramework := !options.frameworkNamespace.isEmpty &&
        options.frameworkNamespace.toList.isPrefixOf className.toList
      let given := Text.trimmed (name.getD "")
      let derived := String.ofList (Text.snakeCase (classBasename className.toList))
      if isFramework then none
      else if !given.isEmpty then some given
      else if !derived.isEmpty then some derived
      else none
  | _ => none

/-- The name of the first rule object that has one. -/
def customType? (options : CompileOptions) (declaration : Declaration) : Option String :=
  declaration.objects.findSome? (customName? options)

end Formwork.Enumeration
