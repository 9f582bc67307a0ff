/-
This file defines why edits and stored states are refused.
-/

import Formwork.Json.Printer

namespace Formwork

inductive Error where
  /-- A stored state has no form that holds fields. -/
  | unreadableState
  /-- A stored state is a scalar. -/
  | scalarState (state : Json)
  /-- The text of an edit is no JSON. -/
  | invalidText
  | notAnObject (kind : String)
  | emptyEdit
  | fileGuard (path : String)
  | pathNotFound (path : String)
  | duplicateKey (path : String)
  | notAContainer (path : String)
  | storage (reason : String)
deriving DecidableEq

namespace Error

/-- The text of an error. Two errors are explained by the reader of JSON texts alone. -/
def message : Error → String
  | unreadableState => "JSON parsing error:"
  | scalarState state =>
      "Invalid JSON: saved state is neither an array nor an object: " ++ state.compact
  | invalidText => "Invalid JSON:"
  | notAnObject kind => "Expected a JSON object at the top level, found " ++ kind
  | emptyEdit => "Refusing to apply an empty object: the edit would delete every field"
  | fileGuard path =>
      "Field " ++ path ++ " holds a file; raw JSON editing is disabled while files are attached"
  | pathNotFound path => "No field at path " ++ path
  | duplicateKey path => "Field " ++ path ++ " already exists"
  | notAContainer path => "Field at " ++ path ++ " cannot hold children"
  | storage reason => "Storage error: " ++ reason

end Error

end Formwork
