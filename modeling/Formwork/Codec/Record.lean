/-
This file reads the parts of records from JSON documents.
-/

import Formwork.Json.Document

namespace Formwork.Document

/-- The parts of a record by name. -/
abbrev Record := String → Option Document

def member? (name : String) : List (Option String × Document) → Option Document
  | [] => none
  | (other, value) :: rest => if other = some name then some value else member? name rest

def occurrences (name : String) (members : List (Option String × Document)) : Nat :=
  members.countP fun (other, _) => other == some name

/-- A record with the given names: an object in which none of them repeats, or a list of its parts in
the order of the names, of which the last may be missing. Other members of an object are ignored, as
long as their names are texts. -/
def record? (names : List String) : Document → Option Record
  | obj members =>
      if members.any (·.1.isNone) || names.any (fun name => 1 < occurrences name members) then none
      else some fun name => member? name members
  | arr items =>
      if names.length < items.length then none else some fun name => items[names.idxOf name]?
  | _ => none

/-- A part that may be missing has a value instead. -/
def orElse {Value : Type} (missing : Value) (read? : Document → Option Value) :
    Option Document → Option Value
  | none => some missing
  | some document => read? document

/-- A null stands for no value. -/
def nullable? {Value : Type} (read? : Document → Option Value) : Document → Option (Option Value)
  | null => some none
  | document => (read? document).map some

def text? : Document → Option String
  | str text => some text
  | _ => none

def bool? : Document → Option Bool
  | bool value => some value
  | _ => none

def number? : Document → Option Number
  | num value => some value
  | _ => none

def allItems? {Value : Type} (read? : Document → Option Value) : List Document → Option (List Value)
  | [] => some []
  | item :: rest => do some ((← read? item) :: (← allItems? read? rest))

def list? {Value : Type} (read? : Document → Option Value) : Document → Option (List Value)
  | arr items => allItems? read? items
  | _ => none

def allMembers? {Value : Type} (read? : Document → Option Value) :
    List (Option String × Document) → Option (Entries Value)
  | [] => some []
  | (name, value) :: rest => do some ((← name, ← read? value) :: (← allMembers? read? rest))

/-- The members of an object, all of one kind. -/
def entries? {Value : Type} (read? : Document → Option Value) : Document → Option (Entries Value)
  | obj members => allMembers? read? members
  | _ => none

end Formwork.Document

namespace Formwork.Json

/-- A part that may be missing, null if it is. -/
def ofOption {Value : Type} (write : Value → Json) : Option Value → Json
  | none => null
  | some value => write value

/-- A member that is left out if there is no value. -/
def optionalMember {Value : Type} (name : String) (write : Value → Json) :
    Option Value → List (String × Json)
  | none => []
  | some value => [(name, write value)]

def ofTexts (texts : List String) : Json :=
  arr (texts.map str)

end Formwork.Json
