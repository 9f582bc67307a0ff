/-
This file defines the types of fields and the names that stand for them.
-/

import Formwork.Entries
import Formwork.Json.Basic
import Formwork.Text.Lowercase
import Formwork.Text.Trim

namespace Formwork

/-- What a field holds. A name outside the fixed ones is a format or custom rule of its own. -/
inductive FieldType where
  | text
  | string
  | email
  | url
  | number
  | boolean
  | date
  | password
  | color
  | json
  | file
  | select
  | object
  | array
  | other (name : String)
deriving DecidableEq

/-- The kind of editor that a field needs. -/
inductive Shape where
  | scalar
  | list
  | object
deriving DecidableEq

namespace FieldType

instance : Inhabited FieldType := ⟨text⟩

/-- The fixed types by name. -/
def fixedNames : Entries FieldType :=
  [ ("text", text), ("string", string), ("email", email), ("url", url), ("number", number),
    ("boolean", boolean), ("date", date), ("password", password), ("color", color),
    ("json", json), ("file", file), ("select", select), ("object", object), ("array", array) ]

def ofName (name : String) : FieldType :=
  (fixedNames.find? name).getD (other name)

def name : FieldType → String
  | text => "text"
  | string => "string"
  | email => "email"
  | url => "url"
  | number => "number"
  | boolean => "boolean"
  | date => "date"
  | password => "password"
  | color => "color"
  | json => "json"
  | file => "file"
  | select => "select"
  | object => "object"
  | array => "array"
  | other name => name

def isOther : FieldType → Bool
  | other _ => true
  | _ => false

def shape : FieldType → Shape
  | object => .object
  | array => .list
  | _ => .scalar

/-- The formats without a fixed type whose values are texts. -/
def textFormats : List String :=
  ["uuid", "ulid", "ip", "ipv4", "ipv6", "mac_address"]

/-- Whether values stay texts in a payload. -/
def isPinned : FieldType → Bool
  | text | string | email | url | password | color | date => true
  | other name => textFormats.contains name
  | _ => false

/-- Whether values are numbers in a payload. -/
def isNumeric : FieldType → Bool
  | number => true
  | other name => name == "integer" || name == "numeric"
  | _ => false

/-- The value of a new field. -/
def emptyValue : FieldType → Json
  | boolean => .bool false
  | object | array => .null
  | _ => .str ""

/-- The rules that name a type of their own. -/
def nativeRules : Entries FieldType :=
  [ ("email", email), ("url", url), ("active_url", url), ("integer", number),
    ("numeric", number), ("decimal", number), ("float", number), ("boolean", boolean),
    ("bool", boolean), ("date", date), ("password", password), ("hex_color", color),
    ("json", json), ("array", array) ]

/-- The names of types in directives. -/
def declaredNames : Entries FieldType :=
  [ ("string", text), ("str", text), ("text", text), ("int", number), ("integer", number),
    ("float", number), ("double", number), ("numeric", number), ("number", number),
    ("bool", boolean), ("boolean", boolean), ("file", file), ("image", file), ("date", date),
    ("datetime", date), ("email", email), ("url", url), ("json", json), ("array", array),
    ("object", object), ("password", password), ("color", color), ("select", select) ]

/-- The type that a directive names, in any case. -/
def ofDeclared (name : String) : FieldType :=
  let lower := String.ofList (Text.lowercase (Text.trim name.toList))
  (declaredNames.find? lower).getD (ofName lower)

end FieldType

end Formwork
