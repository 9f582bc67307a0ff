/-
This file reads and writes rules as JSON.
-/

import Formwork.Codec.Record
import Formwork.Rule.Set

namespace Formwork

open Document

namespace EnumCase

def names : List String :=
  ["name", "value"]

def ofDocument? (document : Document) : Option EnumCase := do
  let part ← document.record? names
  some {
    name := ← (part "name").bind text?
    value := ← orElse none (nullable? value?) (part "value") }

def toJson (enumCase : EnumCase) : Json :=
  .obj (("name", .str enumCase.name) :: Json.optionalMember "value" id enumCase.value)

end EnumCase

namespace EnumType

def names : List String :=
  ["name", "cases"]

def ofDocument? (document : Document) : Option EnumType := do
  let part ← document.record? names
  some {
    name := ← (part "name").bind text?
    cases := ← orElse [] (list? EnumCase.ofDocument?) (part "cases") }

def toJson (type : EnumType) : Json :=
  .obj [("name", .str type.name), ("cases", .arr (type.cases.map EnumCase.toJson))]

end EnumType

namespace RuleObject

/-- The names of the kinds of rule objects, which may also be given by their place. -/
def kinds : List String :=
  ["closure", "in", "enum", "enum_ref", "class"]

def kind? : Document → Option String
  | str name => some name
  | num (.int (.ofNat index)) => kinds[index]?
  | _ => none

/-- A rule object of a known kind. Its other members depend on the kind. -/
def ofDocument? (document : Document) : Option RuleObject := do
  let kindPart ← (obj (← members? document)).record? ["kind"]
  match ← (kindPart "kind").bind kind? with
  | "closure" => some .closure
  | "in" => do
      let part ← document.record? ["values"]
      some (.oneOf (← (part "values").bind (list? value?)))
  | "enum" => do
      let part ← document.record? ["enum_type"]
      some (.enum (← orElse none (nullable? EnumType.ofDocument?) (part "enum_type")))
  | "enum_ref" => do
      let part ← document.record? ["name", "cases"]
      some (.enumRef (← (part "name").bind text?)
        (← orElse [] (list? EnumCase.ofDocument?) (part "cases")))
  | "class" => do
      let part ← document.record? ["class", "name", "display"]
      some (.named (← (part "class").bind text?)
        (← orElse none (nullable? text?) (part "name"))
        (← orElse none (nullable? text?) (part "display")))
  | _ => none
where
  /-- Only an object has a kind. -/
  members? : Document → Option (List (Option String × Document))
    | obj members => some members
    | _ => none

def toJson : RuleObject → Json
  | closure => .obj [("kind", .str "closure")]
  | oneOf values => .obj [("kind", .str "in"), ("values", .arr values)]
  | enum type => .obj [("kind", .str "enum"), ("enum_type", Json.ofOption EnumType.toJson type)]
  | enumRef name cases =>
      .obj [("kind", .str "enum_ref"), ("name", .str name),
        ("cases", .arr (cases.map EnumCase.toJson))]
  | named className name display =>
      .obj [("kind", .str "class"), ("class", .str className),
        ("name", Json.ofOption .str name), ("display", Json.ofOption .str display)]

end RuleObject

namespace Declaration

mutual

/-- The declaration that a document holds. An object that is no rule object is kept as it is; only a
part that stands for no value cannot be read. -/
def ofDocument? : Document → Option Declaration
  | .null => some absent
  | .str rules => some (text rules)
  | .num value => some (number value)
  | .bool value => some (bool value)
  | .arr items => (ofDocuments? items).map list
  | .obj members =>
      (Document.obj members).value?.map fun value =>
        match RuleObject.ofDocument? (.obj members) with
        | some rule => object rule
        | none => unknown value
  | .unusable => none

def ofDocuments? : List Document → Option (List Declaration)
  | [] => some []
  | item :: rest => do some ((← ofDocument? item) :: (← ofDocuments? rest))

end

mutual

def toJson : Declaration → Json
  | absent => .null
  | text rules => .str rules
  | number value => .num value
  | bool value => .bool value
  | list items => .arr (itemsToJson items)
  | object rule => rule.toJson
  | unknown value => value

def itemsToJson : List Declaration → List Json
  | [] => []
  | item :: rest => toJson item :: itemsToJson rest

end

end Declaration

namespace RuleSet

/-- An object of declarations by path. A path that repeats keeps its first place and its last
declaration. -/
def ofDocument? (document : Document) : Option RuleSet :=
  (entries? Declaration.ofDocument? document).map ofList

def toJson (rules : RuleSet) : Json :=
  .obj (rules.entries.map fun (path, declaration) => (path, declaration.toJson))

end RuleSet

end Formwork
