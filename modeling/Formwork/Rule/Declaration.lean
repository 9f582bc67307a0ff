/-
This file defines the rules that are declared for a field.
-/

import Formwork.Json.Printer

namespace Formwork

/-- A case of an enumeration type, with the value that backs it. -/
structure EnumCase where
  name : String
  value : Option Json
deriving DecidableEq

structure EnumType where
  name : String
  cases : List EnumCase
deriving DecidableEq

/-- A rule that is declared by an object. -/
inductive RuleObject where
  | closure
  | oneOf (values : List Json)
  | enum (type : Option EnumType)
  | enumRef (name : String) (cases : List EnumCase)
  | named (className : String) (name display : Option String)
deriving DecidableEq

/-- The rules of a field as they are declared. -/
inductive Declaration where
  | absent
  | text (rules : String)
  | number (value : Number)
  | bool (value : Bool)
  | list (items : List Declaration)
  | object (rule : RuleObject)
  | unknown (value : Json)

namespace EnumCase

/-- A case is chosen by its value, or by its name if it has none. -/
def choice (enumCase : EnumCase) : Json :=
  match enumCase.value with
  | none | some .null => .str enumCase.name
  | some value => value

end EnumCase

namespace RuleObject

/-- The text of a value in an enumeration rule. -/
def valueText : Json → String
  | .str text => text
  | .null => ""
  | value => value.compact

/-- A value in double quotes, where a quote is written twice. -/
def quotedValue (value : Json) : List Char :=
  '"' :: (valueText value).toList.flatMap (fun c => if c = '"' then ['"', '"'] else [c]) ++ ['"']

/-- The enumeration rule over the values. -/
def oneOfToken (values : List Json) : String :=
  String.ofList ("in:".toList ++ [','].intercalate (values.map quotedValue))

/-- The rule as a token. A closure has none. -/
def token? : RuleObject → Option String
  | closure => none
  | oneOf values => some (oneOfToken values)
  | enum _ => some "enum"
  | enumRef name _ => some name
  | named className _ display => some (display.getD className)

end RuleObject

namespace Declaration

instance : Inhabited Declaration := ⟨absent⟩

mutual

/-- The rule objects in order. -/
def objects : Declaration → List RuleObject
  | object rule => [rule]
  | list items => itemObjects items
  | _ => []

def itemObjects : List Declaration → List RuleObject
  | [] => []
  | item :: rest => objects item ++ itemObjects rest

end

mutual

/-- The texts in order, as they were declared. -/
def texts : Declaration → List String
  | text rules => [rules]
  | list items => itemTexts items
  | _ => []

def itemTexts : List Declaration → List String
  | [] => []
  | item :: rest => texts item ++ itemTexts rest

end

end Declaration

end Formwork
