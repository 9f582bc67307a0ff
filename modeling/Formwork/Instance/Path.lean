/-
This file finds and changes fields at dotted paths.
-/

import Formwork.Error
import Formwork.Instance.Node
import Formwork.Number.Numeral
import Formwork.Text.Pieces

namespace Formwork

/-- A segment of a path, and the path up to its end. -/
structure Step where
  segment : String
  path : String
deriving DecidableEq

namespace Path

def segments (path : String) : List (List Char) :=
  Text.pieces '.' path.toList

/-- A key behind the path of its parent, which is empty at the top. -/
def join (parent key : String) : String :=
  if parent.isEmpty then key else parent ++ "." ++ key

/-- The steps of the segments behind a part of the path. -/
def stepsFrom (walked : List Char) : List (List Char) → List Step
  | [] => []
  | segment :: rest =>
      ⟨String.ofList segment, String.ofList (walked ++ segment)⟩ ::
        stepsFrom (walked ++ segment ++ ['.']) rest

/-- The steps of a path. The text before a leading dot is no step, because an empty path stands for
all fields. -/
def steps (path : String) : List Step :=
  match segments path with
  | [] :: next :: rest => stepsFrom ['.'] (next :: rest)
  | all => stepsFrom [] all

/-- The steps to the fields inside the field at a path, which are all fields for an empty one. -/
def stepsInto (path : String) : List Step :=
  if path.isEmpty then [] else steps path

/-- The place in a list that a segment counts. A sign may stand before the digits. -/
def index? (segment : String) : Option Nat :=
  let digits :=
    match segment.toList with
    | '+' :: digits => digits
    | digits => digits
  if Numeral.allDigits digits then some (Numeral.digitsValue digits) else none

/-- The place of a segment: items of a list are counted, all other fields have keys. -/
def position? (inList : Bool) (nodes : List InstanceNode) (segment : String) :
    Option (Fin nodes.length) :=
  if inList then
    (index? segment).bind fun index =>
      if inRange : index < nodes.length then some ⟨index, inRange⟩ else none
  else nodes.findFinIdx? (·.key == segment)

/-- The place of a step, or the error that nothing stands there. -/
def locate (inList : Bool) (nodes : List InstanceNode) (step : Step) :
    Except Error (Fin nodes.length) :=
  match position? inList nodes step.segment with
  | some index => .ok index
  | none => .error (.pathNotFound step.path)

/-- A change of the fields of one level, which is told whether they are items of a list. It leaves
fields whether it gives an answer or an error. -/
abbrev LevelChange (Answer : Type) :=
  Bool → List InstanceNode → Except Error Answer × List InstanceNode

/-- A change at the place of a step, which has to be there. -/
def atPlace {Answer : Type} (step : Step)
    (change : (nodes : List InstanceNode) → Fin nodes.length →
      Except Error Answer × List InstanceNode) : LevelChange Answer :=
  fun inList nodes =>
    match locate inList nodes step with
    | .error error => (.error error, nodes)
    | .ok index => change nodes index

/-- A change of the fields that the steps lead into. -/
def changeLevel {Answer : Type} (change : LevelChange Answer) : List Step → LevelChange Answer
  | [] => change
  | step :: rest =>
      atPlace step fun nodes index =>
        let node := nodes[index]
        if node.shape = .scalar then (.error (.notAContainer step.path), nodes)
        else
          let (answer, children) := changeLevel change rest (node.shape == .list) node.children
          (answer, nodes.set index { node with children := children })

/-- A change of one field. It leaves a field whether it is refused or not. -/
abbrev FieldChange := InstanceNode → Except Error Unit × InstanceNode

/-- A change of the field that the last step finds. -/
def changeField (change : FieldChange) (step : Step) : LevelChange Unit :=
  atPlace step fun nodes index =>
    let (answer, node) := change nodes[index]
    (answer, nodes.set index node)

/-- The change at the end of a path, below all steps but the last. -/
def atLast {Answer : Type} (path : String) (change : Step → LevelChange Answer)
    (nodes : List InstanceNode) : Except Error Answer × List InstanceNode :=
  let steps := steps path
  match steps.getLast? with
  | some last => changeLevel (change last) steps.dropLast false nodes
  | none => (.error (.pathNotFound path), nodes)

/-- A change of the field at a path. -/
def update (path : String) (change : FieldChange) (nodes : List InstanceNode) :
    Except Error Unit × List InstanceNode :=
  atLast path (changeField change) nodes

/-- Takes the field that the last step finds out of its level, and answers with it. -/
def takeOut (step : Step) : LevelChange InstanceNode :=
  atPlace step fun nodes index => (.ok nodes[index], nodes.eraseIdx index)

/-- Takes out the field at a path. -/
def remove (path : String) (nodes : List InstanceNode) :
    Except Error InstanceNode × List InstanceNode :=
  atLast path takeOut nodes

/-- Puts a new field behind those inside a parent, which has to hold fields by key. -/
def append (parent : String) (field : InstanceNode) : LevelChange Unit := fun inList nodes =>
  if inList then (.error (.notAContainer parent), nodes)
  else if nodes.any (·.key == field.key) then
    (.error (.duplicateKey (join parent field.key)), nodes)
  else (.ok (), nodes ++ [field])

/-- Puts a new field inside the field at a path. -/
def add (parent : String) (field : InstanceNode) (nodes : List InstanceNode) :
    Except Error Unit × List InstanceNode :=
  changeLevel (append parent field) (stepsInto parent) false nodes

/-- The field that the segments lead to. -/
def follow? (inList : Bool) (nodes : List InstanceNode) : List (List Char) → Option InstanceNode
  | [] => none
  | [segment] => (position? inList nodes (String.ofList segment)).map fun index => nodes[index]
  | segment :: next :: rest => do
      let index ← position? inList nodes (String.ofList segment)
      let node := nodes[index]
      follow? (node.type == .array) node.children (next :: rest)

/-- The field at a path. -/
def node? (path : String) (nodes : List InstanceNode) : Option InstanceNode :=
  follow? false nodes (segments path)

end Path

end Formwork
