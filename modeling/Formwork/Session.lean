/-
This file defines editing sessions: fields next to their schema and the store they are saved in.
-/

import Formwork.Codec.Instance
import Formwork.Instance.Edit
import Formwork.Instance.Path
import Formwork.Instance.Payload
import Formwork.Instance.Reconcile
import Formwork.Store

namespace Formwork

namespace Store

/-- The fields stored under a key. What cannot be read counts as nothing. -/
def load (store : Store) (key : String) : List InstanceNode :=
  match store.get? key with
  | none => []
  | some state =>
      match SavedState.nodes state with
      | .ok nodes => nodes
      | .error _ => []

/-- The store after saving fields under a key, unless it refuses. -/
def save (store : Store) (key : String) (nodes : List InstanceNode) : Except Error Store :=
  store.set key (SavedState.ofNodes nodes)

/-- The store after saving as far as it allows. -/
def keep (store : Store) (key : String) (nodes : List InstanceNode) : Store :=
  match store.save key nodes with
  | .ok saved => saved
  | .error _ => store

end Store

/-- A change that a session makes to its fields. -/
inductive Edit where
  | setValue (path : String) (value : Json)
  | setEnabled (path : String) (enabled : Bool)
  | setType (path : String) (type : FieldType)
  | addField (parent key : String) (type : FieldType)
  | pushItem (path : String)
  | remove (path : String)
  | applyText (text : String)
  | reset

namespace InstanceNode

/-- The items of a new list are texts. -/
def newChildDef (type : FieldType) : Option ChildDef :=
  if type = .array then some ⟨.text, none⟩ else none

/-- The field with another type. A type of another shape empties it. -/
def withType (type : FieldType) (node : InstanceNode) : InstanceNode :=
  if type.shape = node.shape then { node with type := type }
  else
    { node with
      type := type
      value := type.emptyValue
      children := []
      childDef := newChildDef type }

/-- A field that an edit adds. -/
def added (key : String) (type : FieldType) : InstanceNode :=
  { fresh key type with childDef := newChildDef type }

/-- The item that a list gets next. -/
def nextItem (node : InstanceNode) : InstanceNode :=
  match node.childDef with
  | some childDef => childDef.newItem
  | none => fresh "" .text

/-- The list with one more item. Only a list has items. -/
def withItem (path : String) : Path.FieldChange := fun node =>
  if node.type = .array then (.ok (), { node with children := node.children ++ [node.nextItem] })
  else (.error (.notAContainer path), node)

end InstanceNode

structure Session where
  options : CompileOptions
  key : String
  schema : List SchemaNode
  nodes : List InstanceNode
  store : Store

variable [PatternEngine]

namespace Session

/-- What is stored under the key is reconciled with the schema. -/
def start (options : CompileOptions) (schema : List SchemaNode) (store : Store) (key : String) :
    Session :=
  { options := options
    key := key
    schema := schema
    nodes := reconcile options schema (store.load key)
    store := store }

/-- What is done with a session answers or fails, and leaves a session in both cases: what has been
done before a failure stays done. -/
abbrev Operation (Answer : Type) := ExceptT Error (StateM Session) Answer

/-- Saves the fields as far as the store allows it, and tells whether it does. -/
def persist : Operation Bool := do
  let session ← get
  set { session with store := session.store.keep session.key session.nodes }
  return (session.store.save session.key session.nodes).isOk

/-- The fields become what a change leaves of them, also if it is refused. -/
def change {Answer : Type} (make : List InstanceNode → Except Error Answer × List InstanceNode) :
    Operation Answer :=
  ExceptT.mk <| modifyGet fun session =>
    let (answer, nodes) := make session.nodes
    (answer, { session with nodes := nodes })

def setValue (path : String) (value : Json) : Operation Unit := do
  change (Path.update path fun node => (.ok (), { node with value := value }))
  discard persist

def setEnabled (path : String) (enabled : Bool) : Operation Unit := do
  change (Path.update path fun node => (.ok (), { node with enabled := enabled }))
  discard persist

def setType (path : String) (type : FieldType) : Operation Unit := do
  change (Path.update path fun node => (.ok (), node.withType type))
  discard persist

def addField (parent key : String) (type : FieldType) : Operation Unit := do
  change (Path.add parent (.added key type))
  discard persist

def pushItem (path : String) : Operation Unit := do
  change (Path.update path (InstanceNode.withItem path))
  discard persist

def remove (path : String) : Operation InstanceNode := do
  let removed ← change (Path.remove path)
  discard persist
  return removed

def applyText (text : String) : Operation Unit := do
  let session ← get
  match Formwork.applyText session.options text session.nodes with
  | .ok nodes =>
      set { session with nodes := nodes }
      discard persist
  | .error error => throw error

/-- The fields that the schema alone gives. -/
def reset : Operation Unit := do
  let session ← get
  set { session with nodes := InstanceNode.defaults session.schema }
  discard persist

/-- An edit answers with the field that it removes. -/
def edited : Edit → Operation (Option InstanceNode)
  | .setValue path value => do setValue path value; return none
  | .setEnabled path enabled => do setEnabled path enabled; return none
  | .setType path type => do setType path type; return none
  | .addField parent key type => do addField parent key type; return none
  | .pushItem path => do pushItem path; return none
  | .remove path => do return some (← remove path)
  | .applyText text => do applyText text; return none
  | .reset => do reset; return none

/-- The answer to an edit, and the session that it leaves. -/
def perform (session : Session) (edit : Edit) : Except Error (Option InstanceNode) × Session :=
  (edited edit).run session

/-- The field at a path. -/
def node? (session : Session) (path : String) : Option InstanceNode :=
  Path.node? path session.nodes

def payload (session : Session) : Json :=
  Formwork.payload session.nodes

end Session

end Formwork
