/-
This file assembles schemas from dotted paths.
-/

import Formwork.Resolve.Field
import Formwork.Rule.Set

namespace Formwork

/-- The fields below a segment of a path, before they become schema nodes. -/
structure PathTree where
  key : String
  leaf : Option SchemaNode := none
  children : List PathTree := []

namespace PathTree

/-- The change applies to the branch of the segment, which is new and last if there was none. -/
def changeAt (segment : String) (change : PathTree → PathTree) : List PathTree → List PathTree
  | [] => [change { key := segment }]
  | branch :: rest =>
      if branch.key = segment then change branch :: rest
      else branch :: changeAt segment change rest

/-- The later of two leaves at one path stays. -/
def plant (leaf : SchemaNode) : List String → List PathTree → List PathTree
  | [], branches => branches
  | [segment], branches =>
      changeAt segment (fun branch => { branch with leaf := some leaf }) branches
  | segment :: next :: rest, branches =>
      changeAt segment (fun branch =>
        { branch with children := plant leaf (next :: rest) branch.children }) branches

def segments (path : String) : List String :=
  (Text.pieces '.' path.toList).map String.ofList

/-- An empty path names no field. -/
def insert (branches : List PathTree) (path : String) (leaf : SchemaNode) : List PathTree :=
  if path.isEmpty then branches else plant leaf (segments path) branches

end PathTree

namespace FieldInfo

/-- The field as an object, or as a list of objects. -/
def asObject (info : FieldInfo) (isList : Bool) : FieldInfo :=
  { info with type := .object, childType := none, isList := isList, options := none }

/-- The field as a list of scalars. -/
def asArray (info : FieldInfo) (childType : FieldType) : FieldInfo :=
  { info with type := .array, childType := some childType, isList := false, options := none }

/-- The field at a key, which is a template if it holds the wildcard next to other text. -/
def atKey (options : CompileOptions) (key : String) (info : FieldInfo) : FieldInfo :=
  { info with key := key, isPattern := info.isPattern || Text.isTemplate options.wildcard key }

end FieldInfo

namespace SchemaNode

/-- A field with nothing below it has fields inside exactly if it is an object, and a type of items
exactly if it is a list. -/
def normalize (node : SchemaNode) : SchemaNode :=
  match node.info.type with
  | .object => ⟨{ node.info with childType := none }, some node.children⟩
  | .array =>
      ⟨{ node.info with childType := some (node.info.childType.getD .text), isList := false }, none⟩
  | _ => ⟨{ node.info with childType := none, isList := false }, none⟩

/-- A field with a wildcard below it: a list of objects if there are fields below the wildcard, else
what the type of the items makes it. -/
def ofItems (options : CompileOptions) (info : FieldInfo) (item : Option SchemaNode)
    (fields : List SchemaNode) : SchemaNode :=
  let itemType := (item.map (·.info.type)).getD .text
  if !fields.isEmpty then ⟨info.asObject true, some fields⟩
  else if itemType = .object then ⟨info.asObject true, some []⟩
  else if options.isGroupingKey info.key then ⟨info.asObject false, some []⟩
  else ⟨info.asArray itemType, none⟩

end SchemaNode

namespace PathTree

mutual

/-- The node of a branch. A wildcard below it takes precedence over its other children. -/
def node (options : CompileOptions) : PathTree → SchemaNode
  | ⟨key, leaf, children⟩ =>
      let start := leaf.getD (.leaf { key := key, type := .object })
      let info := start.info.atKey options key
      match wildcardPart options children with
      | some (item, fields) => SchemaNode.ofItems options info item fields
      | none =>
          if children.isEmpty then SchemaNode.normalize ⟨info, start.schema⟩
          else ⟨info.asObject false, some (nodes options children)⟩

def nodes (options : CompileOptions) : List PathTree → List SchemaNode
  | [] => []
  | branch :: rest => node options branch :: nodes options rest

/-- The leaf at the wildcard and the fields below it, if the wildcard is among the branches. -/
def wildcardPart (options : CompileOptions) :
    List PathTree → Option (Option SchemaNode × List SchemaNode)
  | [] => none
  | ⟨key, leaf, children⟩ :: rest =>
      if key = options.wildcard then some (leaf, nodes options children)
      else wildcardPart options rest

end

end PathTree

/-- The schema of fields at their paths. -/
def assemble (options : CompileOptions) (entries : List (String × SchemaNode)) :
    List SchemaNode :=
  PathTree.nodes options
    (entries.foldl (fun branches (path, leaf) => PathTree.insert branches path leaf) [])

/-- The schema of a rule set. -/
def RuleSet.compile (options : CompileOptions) (rules : RuleSet) : List SchemaNode :=
  assemble options (rules.entries.map fun (path, declaration) =>
    (path, .leaf (FieldInfo.ofRules options path declaration)))

end Formwork
