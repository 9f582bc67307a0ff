/-
This file says what all names of members in a value have in common, at every level of it.
-/

import Formwork.Proofs.Json.Settled

namespace Formwork

namespace Json

mutual

/-- All names of members have the property, at every level of a value. -/
def EachName (property : String → Prop) : Json → Prop
  | arr items => ItemsEachName property items
  | obj members => MembersEachName property members
  | _ => True

def ItemsEachName (property : String → Prop) : List Json → Prop
  | [] => True
  | item :: rest => EachName property item ∧ ItemsEachName property rest

def MembersEachName (property : String → Prop) : List (String × Json) → Prop
  | [] => True
  | (name, value) :: rest => property name ∧ EachName property value ∧ MembersEachName property rest

end

variable {property : String → Prop}

theorem itemsEachName_iff (items : List Json) :
    ItemsEachName property items ↔ ∀ item ∈ items, item.EachName property := by
  induction items with
  | nil => simp [ItemsEachName]
  | cons item rest inductionHypothesis =>
      rw [ItemsEachName, inductionHypothesis, List.forall_mem_cons]

theorem membersEachName_iff (members : List (String × Json)) :
    MembersEachName property members ↔
      ∀ member ∈ members, property member.1 ∧ member.2.EachName property := by
  induction members with
  | nil => simp [MembersEachName]
  | cons member rest inductionHypothesis =>
      rw [MembersEachName, inductionHypothesis, List.forall_mem_cons, and_assoc]

mutual

def decidableEachName [DecidablePred property] : (value : Json) → Decidable (value.EachName property)
  | null => .isTrue trivial
  | bool _ => .isTrue trivial
  | num _ => .isTrue trivial
  | str _ => .isTrue trivial
  | arr items => decidableItemsEachName items
  | obj members => decidableMembersEachName members

def decidableItemsEachName [DecidablePred property] :
    (items : List Json) → Decidable (ItemsEachName property items)
  | [] => .isTrue trivial
  | item :: rest =>
      have : Decidable (item.EachName property) := decidableEachName item
      have : Decidable (ItemsEachName property rest) := decidableItemsEachName rest
      inferInstanceAs (Decidable (item.EachName property ∧ ItemsEachName property rest))

def decidableMembersEachName [DecidablePred property] :
    (members : List (String × Json)) → Decidable (MembersEachName property members)
  | [] => .isTrue trivial
  | (name, value) :: rest =>
      have : Decidable (value.EachName property) := decidableEachName value
      have : Decidable (MembersEachName property rest) := decidableMembersEachName rest
      inferInstanceAs
        (Decidable (property name ∧ value.EachName property ∧ MembersEachName property rest))

end

instance [DecidablePred property] : DecidablePred (EachName property) :=
  decidableEachName

mutual

theorem eachName_of_forall (all : ∀ name, property name) : (value : Json) → value.EachName property
  | null => trivial
  | bool _ => trivial
  | num _ => trivial
  | str _ => trivial
  | arr items => itemsEachName_of_forall all items
  | obj members => membersEachName_of_forall all members

theorem itemsEachName_of_forall (all : ∀ name, property name) :
    (items : List Json) → ItemsEachName property items
  | [] => trivial
  | item :: rest => ⟨eachName_of_forall all item, itemsEachName_of_forall all rest⟩

theorem membersEachName_of_forall (all : ∀ name, property name) :
    (members : List (String × Json)) → MembersEachName property members
  | [] => trivial
  | (name, value) :: rest =>
      ⟨all name, eachName_of_forall all value, membersEachName_of_forall all rest⟩

end

mutual

/-- Names that have a property have each property that follows from it. -/
theorem eachName_mono {other : String → Prop} (follows : ∀ name, property name → other name) :
    (value : Json) → value.EachName property → value.EachName other
  | null, _ => trivial
  | bool _, _ => trivial
  | num _, _ => trivial
  | str _, _ => trivial
  | arr items, named => itemsEachName_mono follows items named
  | obj members, named => membersEachName_mono follows members named

theorem itemsEachName_mono {other : String → Prop} (follows : ∀ name, property name → other name) :
    (items : List Json) → ItemsEachName property items → ItemsEachName other items
  | [], _ => trivial
  | item :: rest, named =>
      ⟨eachName_mono follows item named.1, itemsEachName_mono follows rest named.2⟩

theorem membersEachName_mono {other : String → Prop} (follows : ∀ name, property name → other name) :
    (members : List (String × Json)) → MembersEachName property members →
      MembersEachName other members
  | [], _ => trivial
  | (name, value) :: rest, named =>
      ⟨follows name named.1, eachName_mono follows value named.2.1,
        membersEachName_mono follows rest named.2.2⟩

end

/-- Members that are settled have no other names. -/
theorem membersEachName_settle {members : List (String × Json)}
    (named : MembersEachName property members) :
    MembersEachName property (Entries.settle members) := by
  rw [membersEachName_iff] at named ⊢
  exact Entries.forall_settle named

mutual

theorem eachName_settled : (value : Json) → value.EachName property →
    value.settled.EachName property
  | null, _ => trivial
  | bool _, _ => trivial
  | num _, _ => trivial
  | str _, _ => trivial
  | arr items, named => itemsEachName_settledItems items named
  | obj members, named => membersEachName_settle (membersEachName_settledMembers members named)

theorem itemsEachName_settledItems : (items : List Json) → ItemsEachName property items →
    ItemsEachName property (settledItems items)
  | [], _ => trivial
  | item :: rest, named =>
      ⟨eachName_settled item named.1, itemsEachName_settledItems rest named.2⟩

theorem membersEachName_settledMembers : (members : List (String × Json)) →
    MembersEachName property members → MembersEachName property (settledMembers members)
  | [], _ => trivial
  | (_, value) :: rest, named =>
      ⟨named.1, eachName_settled value named.2.1, membersEachName_settledMembers rest named.2.2⟩

end

end Json

end Formwork
