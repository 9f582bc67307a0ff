/-
This file reads and writes schemas as JSON.
-/

import Formwork.Codec.Record
import Formwork.Schema.Node

namespace Formwork

open Document

namespace FieldType

def ofDocument? (document : Document) : Option FieldType :=
  document.text?.map ofName

def toJson (type : FieldType) : Json :=
  .str type.name

end FieldType

namespace Conditional

def names : List String :=
  ["rule", "field", "fields", "value"]

def ofDocument? (document : Document) : Option Conditional := do
  let part ← document.record? names
  some {
    rule := ← (part "rule").bind text?
    field := ← orElse none (nullable? text?) (part "field")
    fields := ← orElse none (nullable? (list? text?)) (part "fields")
    value := ← orElse none (nullable? text?) (part "value") }

def toJson (clause : Conditional) : Json :=
  .obj (("rule", .str clause.rule) :: Json.optionalMember "field" .str clause.field ++
    Json.optionalMember "fields" .ofTexts clause.fields ++
    Json.optionalMember "value" .str clause.value)

end Conditional

namespace Constraints

def dimensions? (document : Document) : Option (SortedEntries String) :=
  (entries? text? document).map .ofList

def dimensionsToJson (dimensions : SortedEntries String) : Json :=
  .obj (dimensions.entries.map fun (name, value) => (name, .str value))

/-- The members of the constraints, in order. -/
def members (constraints : Constraints) : List (String × Json) :=
  [ ("required", .bool constraints.required),
    ("nullable", .bool constraints.nullable),
    ("confirmed", .bool constraints.confirmed),
    ("min", Json.ofOption .num constraints.min),
    ("max", Json.ofOption .num constraints.max),
    ("pattern", Json.ofOption .str constraints.pattern),
    ("accept", Json.ofOption .str constraints.accept),
    ("dimensions", Json.ofOption dimensionsToJson constraints.dimensions),
    ("conditionals", .arr (constraints.conditionals.map Conditional.toJson)) ]

def ofRecord? (part : Record) : Option Constraints := do
  some {
    required := ← orElse false bool? (part "required")
    nullable := ← orElse false bool? (part "nullable")
    confirmed := ← orElse false bool? (part "confirmed")
    min := ← orElse none (nullable? number?) (part "min")
    max := ← orElse none (nullable? number?) (part "max")
    pattern := ← orElse none (nullable? text?) (part "pattern")
    accept := ← orElse none (nullable? text?) (part "accept")
    dimensions := ← orElse none (nullable? dimensions?) (part "dimensions")
    conditionals := ← orElse [] (list? Conditional.ofDocument?) (part "conditionals") }

end Constraints

namespace SchemaNode

/-- The names of the parts of a node, in order. -/
def names : List String :=
  ["key", "type", "required", "nullable", "confirmed", "min", "max", "pattern", "accept",
    "dimensions", "conditionals", "options", "rules", "childType", "schema", "isList",
    "isPattern", "description"]

/-- How many parts come before the fields inside a node. -/
def schemaIndex : Nat := 14

end SchemaNode

namespace FieldInfo

/-- What a document says about a field, apart from the fields inside it. -/
def ofDocument? (document : Document) : Option FieldInfo := do
  let part ← document.record? SchemaNode.names
  some {
    toConstraints := ← Constraints.ofRecord? part
    key := ← (part "key").bind text?
    type := ← (part "type").bind FieldType.ofDocument?
    options := ← orElse none (nullable? (list? value?)) (part "options")
    rules := ← orElse [] (list? text?) (part "rules")
    childType := ← orElse none (nullable? FieldType.ofDocument?) (part "childType")
    isList := ← orElse false bool? (part "isList")
    isPattern := ← orElse false bool? (part "isPattern")
    description := ← orElse none (nullable? text?) (part "description") }

/-- The members of a node, with those of the fields inside it in their place. -/
def membersWith (info : FieldInfo) (schema : List (String × Json)) : List (String × Json) :=
  [("key", .str info.key), ("type", info.type.toJson)] ++ info.toConstraints.members ++
    [("options", Json.ofOption .arr info.options), ("rules", .ofTexts info.rules)] ++
    Json.optionalMember "childType" FieldType.toJson info.childType ++ schema ++
    [("isList", .bool info.isList), ("isPattern", .bool info.isPattern)] ++
    Json.optionalMember "description" .str info.description

/-- The field as a node without fields inside it. -/
def toJson (info : FieldInfo) : Json :=
  .obj (info.membersWith [])

end FieldInfo

namespace SchemaNode

mutual

def toJson : SchemaNode → Json
  | ⟨info, none⟩ => .obj (info.membersWith [])
  | ⟨info, some nodes⟩ => .obj (info.membersWith [("schema", .arr (nodesToJson nodes))])

def nodesToJson : List SchemaNode → List Json
  | [] => []
  | node :: rest => toJson node :: nodesToJson rest

end

mutual

def ofDocument? : Document → Option SchemaNode
  | .obj members => do
      some ⟨← FieldInfo.ofDocument? (.obj members), ← schemaMember? members⟩
  | .arr items => do
      some ⟨← FieldInfo.ofDocument? (.arr items), ← schemaItem? schemaIndex items⟩
  | _ => none

/-- The fields inside a node, among its members. -/
def schemaMember? : List (Option String × Document) → Option (Option (List SchemaNode))
  | [] => some none
  | (name, document) :: rest =>
      if name = some "schema" then schema? document else schemaMember? rest

/-- The fields inside a node, among its parts in order. -/
def schemaItem? : Nat → List Document → Option (Option (List SchemaNode))
  | _, [] => some none
  | 0, document :: _ => schema? document
  | index + 1, _ :: rest => schemaItem? index rest

def schema? : Document → Option (Option (List SchemaNode))
  | .null => some none
  | .arr items => (ofDocuments? items).map some
  | _ => none

def ofDocuments? : List Document → Option (List SchemaNode)
  | [] => some []
  | document :: rest => do some ((← ofDocument? document) :: (← ofDocuments? rest))

end

/-- A whole schema. -/
def listOfDocument? : Document → Option (List SchemaNode)
  | .arr items => ofDocuments? items
  | _ => none

end SchemaNode

end Formwork
