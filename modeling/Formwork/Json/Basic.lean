/-
This file defines JSON values, with the members of an object in their order.
-/

import Formwork.Entries
import Formwork.Number.Basic

namespace Formwork

inductive Json where
  | null
  | bool (value : Bool)
  | num (value : Number)
  | str (text : String)
  | arr (items : List Json)
  | obj (members : List (String × Json))

namespace Json

instance : Inhabited Json := ⟨null⟩

def isNull : Json → Bool
  | null => true
  | _ => false

/-- The name of the kind of value. -/
def kind : Json → String
  | null => "null"
  | bool _ => "boolean"
  | num _ => "number"
  | str _ => "string"
  | arr _ => "array"
  | obj _ => "object"

def member? (name : String) : Json → Option Json
  | obj members => Entries.find? name members
  | _ => none

mutual

def same : Json → Json → Bool
  | null, null => true
  | bool left, bool right => left == right
  | num left, num right => left = right
  | str left, str right => left == right
  | arr left, arr right => sameItems left right
  | obj left, obj right => sameMembers left right
  | _, _ => false

def sameItems : List Json → List Json → Bool
  | [], [] => true
  | left :: lefts, right :: rights => same left right && sameItems lefts rights
  | _, _ => false

def sameMembers : List (String × Json) → List (String × Json) → Bool
  | [], [] => true
  | (name, left) :: lefts, (other, right) :: rights =>
      name == other && same left right && sameMembers lefts rights
  | _, _ => false

end

mutual

theorem same_iff : (left right : Json) → (same left right = true ↔ left = right)
  | null, right => by cases right <;> simp [same]
  | bool _, right => by cases right <;> simp [same]
  | num _, right => by cases right <;> simp [same]
  | str _, right => by cases right <;> simp [same]
  | arr items, right => by
      cases right with
      | arr others => simp [same, sameItems_iff items others]
      | _ => simp [same]
  | obj members, right => by
      cases right with
      | obj others => simp [same, sameMembers_iff members others]
      | _ => simp [same]

theorem sameItems_iff :
    (lefts rights : List Json) → (sameItems lefts rights = true ↔ lefts = rights)
  | [], rights => by cases rights <;> simp [sameItems]
  | left :: lefts, rights => by
      cases rights with
      | nil => simp [sameItems]
      | cons right rights => simp [sameItems, same_iff left right, sameItems_iff lefts rights]

theorem sameMembers_iff :
    (lefts rights : List (String × Json)) → (sameMembers lefts rights = true ↔ lefts = rights)
  | [], rights => by cases rights <;> simp [sameMembers]
  | (name, left) :: lefts, rights => by
      cases rights with
      | nil => simp [sameMembers]
      | cons right rights =>
          obtain ⟨other, right⟩ := right
          simp [sameMembers, same_iff left right, sameMembers_iff lefts rights, and_assoc]

end

instance : DecidableEq Json :=
  fun left right => decidable_of_iff _ (same_iff left right)

end Json

end Formwork
