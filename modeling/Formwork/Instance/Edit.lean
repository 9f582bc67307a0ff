/-
This file rebuilds fields from an edited JSON body.
-/

import Formwork.CompileOptions
import Formwork.Error
import Formwork.Instance.Path
import Formwork.Json.Reader

namespace Formwork

variable [PatternEngine]

namespace InstanceNode

/-- Whether the schema key of a field is a template for the key. -/
def describes (wildcard key : String) (node : InstanceNode) : Bool :=
  node.info.any fun info => info.isPattern && Text.globMatches wildcard info.key key

/-- The field for a member: the first with its key, else the first whose schema key is a template for
it. -/
def matching? (wildcard : String) (existing : List InstanceNode) (key : String) :
    Option InstanceNode :=
  existing.find? (·.key == key) <|> existing.find? (describes wildcard key)

/-- The type of a scalar. Texts keep the scalar type that was chosen before. -/
def scalarType (previous : Option FieldType) : Json → FieldType
  | .num _ => .number
  | .bool _ => .boolean
  | _ => (previous.filter (·.shape == .scalar)).getD .text

/-- The fields of a new item of an object list. -/
def itemFields (childDef : Option ChildDef) : List InstanceNode :=
  ((childDef.filter (·.type == .object)).map (·.newItem.children)).getD []

mutual

/-- The field of a member, next to the field that was there before. -/
def hydrateField (wildcard key : String) (existing : Option InstanceNode) : Json → InstanceNode
  | .null => { fresh key .text with info := existing.bind (·.info) }
  | .obj members =>
      { fresh key .object with
        children := hydrateMembers wildcard ((existing.map (·.children)).getD []) members
        info := existing.bind (·.info) }
  | .arr items =>
      let childDef := existing.bind (·.childDef)
      { fresh key .array with
        children := hydrateItems wildcard childDef items
        childDef := childDef
        info := existing.bind (·.info) }
  | value =>
      { fresh key (scalarType (existing.map (·.type)) value) with
        value := value
        enabled := (existing.map (·.enabled)).getD true
        info := existing.bind (·.info) }

/-- An item of a list. Lists inside lists have no definition of their items. -/
def hydrateItem (wildcard : String) (childDef : Option ChildDef) : Json → InstanceNode
  | .null => fresh "" .text
  | .obj members =>
      { fresh "" .object with children := hydrateMembers wildcard (itemFields childDef) members }
  | .arr items => { fresh "" .array with children := hydrateItems wildcard none items }
  | value => { fresh "" (scalarType (childDef.map (·.type)) value) with value := value }

def hydrateMembers (wildcard : String) (existing : List InstanceNode) :
    List (String × Json) → List InstanceNode
  | [] => []
  | (key, value) :: rest =>
      hydrateField wildcard key (matching? wildcard existing key) value ::
        hydrateMembers wildcard existing rest

def hydrateItems (wildcard : String) (childDef : Option ChildDef) : List Json → List InstanceNode
  | [] => []
  | item :: rest => hydrateItem wildcard childDef item :: hydrateItems wildcard childDef rest

end

/-- How a path names a field among its siblings: by its key, or by its place if it has none. -/
def segment (index : Nat) (node : InstanceNode) : String :=
  if node.key.isEmpty then String.ofList (Nat.toDigits 10 index) else node.key

mutual

/-- The path of the first field with a file, from the path of a field. -/
def filePath? (path : String) : InstanceNode → Option String
  | ⟨_, type, value, _, children, _, _⟩ =>
      if type == .file && !isEmptyValue value then some path
      else firstFilePath? path 0 children

/-- The path of the first field with a file among siblings from a place on. -/
def firstFilePath? (parent : String) (index : Nat) : List InstanceNode → Option String
  | [] => none
  | node :: rest =>
      filePath? (Path.join parent (node.segment index)) node <|>
        firstFilePath? parent (index + 1) rest

end

end InstanceNode

/-- The fields of a JSON object, with types and schema from the existing fields. Any other value
changes nothing. -/
def hydrate (options : CompileOptions) (value : Json) (existing : List InstanceNode) :
    List InstanceNode :=
  match value with
  | .obj members => InstanceNode.hydrateMembers options.wildcard existing members
  | _ => existing

/-- The fields after an edit of the whole body as text. An attached file forbids the edit, and
deleting all fields at once is no edit. -/
def applyText (options : CompileOptions) (text : String) (existing : List InstanceNode) :
    Except Error (List InstanceNode) :=
  match InstanceNode.firstFilePath? "" 0 existing with
  | some path => .error (.fileGuard path)
  | none =>
      match Json.ofText? text with
      | none => .error .invalidText
      | some (.obj members) =>
          if members.isEmpty && !existing.isEmpty then .error .emptyEdit
          else .ok (InstanceNode.hydrateMembers options.wildcard existing members)
      | some value => .error (.notAnObject value.kind)

end Formwork
