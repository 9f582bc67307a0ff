/-
This file defines JSON texts as they are written, before it is known what is read from them.
-/

import Formwork.Json.Basic

namespace Formwork

/-- The content of a JSON text. Members may repeat, and a part may be well written and yet stand for
no value: a number out of range, a string that is no text, or brackets too deep. -/
inductive Document where
  | null
  | bool (value : Bool)
  | num (value : Number)
  | str (text : String)
  | arr (items : List Document)
  | obj (members : List (Option String × Document))
  | unusable

namespace Document

instance : Inhabited Document := ⟨null⟩

mutual

/-- The value of a document in which every part stands for one. -/
def value? : Document → Option Json
  | null => some .null
  | bool value => some (.bool value)
  | num value => some (.num value)
  | str text => some (.str text)
  | arr items => (itemValues? items).map .arr
  | obj members => (memberValues? members).map fun values => .obj (Entries.settle values)
  | unusable => none

def itemValues? : List Document → Option (List Json)
  | [] => some []
  | item :: rest => do some ((← value? item) :: (← itemValues? rest))

def memberValues? : List (Option String × Document) → Option (List (String × Json))
  | [] => some []
  | (name, item) :: rest => do some ((← name, ← value? item) :: (← memberValues? rest))

end

end Document

namespace Json

mutual

/-- A value as a document of its own. -/
def document : Json → Document
  | null => .null
  | bool value => .bool value
  | num value => .num value
  | str text => .str text
  | arr items => .arr (itemDocuments items)
  | obj members => .obj (memberDocuments members)

def itemDocuments : List Json → List Document
  | [] => []
  | item :: rest => document item :: itemDocuments rest

def memberDocuments : List (String × Json) → List (Option String × Document)
  | [] => []
  | (name, value) :: rest => (some name, document value) :: memberDocuments rest

end

end Json

end Formwork
