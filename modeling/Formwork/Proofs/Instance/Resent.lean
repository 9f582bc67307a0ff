/-
This file tells which values are sent as they are by fields that were rebuilt from them.
-/

import Formwork.Proofs.Instance.Hydrated

namespace Formwork

variable [PatternEngine]

namespace Place

variable (wildcard : String)

mutual

/-- Whether a value is sent as it is after fields were rebuilt from it: it has no null, its texts are
left as they are by the types of their places, and its members have names. -/
def keeps (place : Place) : Json → Bool
  | .null => false
  | .str content => place.type.cast (.str content) = .str content
  | .arr items => keepsItems (ofItem place.items) items
  | .obj members => keepsMembers place.fields members
  | _ => true

def keepsItems (place : Place) : List Json → Bool
  | [] => true
  | item :: rest => keeps place item && keepsItems place rest

def keepsMembers (existing : List InstanceNode) : List (String × Json) → Bool
  | [] => true
  | (name, value) :: rest =>
      !name.isEmpty && keeps (ofField (InstanceNode.matching? wildcard existing name)) value &&
        keepsMembers existing rest

end

theorem length_sentMembers_le (existing : List InstanceNode) (members : List (String × Json)) :
    (sentMembers wildcard existing members).length ≤ members.length := by
  simpa [Entries.names] using (names_sentMembers_sublist wildcard existing members).length_le

mutual

/-- A place sends exactly those values as they are that it keeps. -/
theorem sent_eq_iff (place : Place) :
    (value : Json) → (place.sent wildcard value = value ↔ place.keeps wildcard value = true)
  | .null => by simp [sent, keeps]
  | .bool _ => by simp [sent, keeps]
  | .num _ => by simp [sent, keeps]
  | .str _ => by simp [sent, keeps]
  | .arr items => by rw [sent, keeps, Json.arr.injEq, sentItems_eq_iff (ofItem place.items) items]
  | .obj members => by rw [sent, keeps, Json.obj.injEq, sentMembers_eq_iff place.fields members]

theorem sentItems_eq_iff (place : Place) : (items : List Json) →
    (place.sentItems wildcard items = items ↔ place.keepsItems wildcard items = true)
  | [] => by simp [sentItems, keepsItems]
  | item :: rest => by
      rw [sentItems, keepsItems, List.cons.injEq, Bool.and_eq_true, sent_eq_iff place item,
        sentItems_eq_iff place rest]

theorem sentMembers_eq_iff (existing : List InstanceNode) : (members : List (String × Json)) →
    (sentMembers wildcard existing members = members ↔
      keepsMembers wildcard existing members = true)
  | [] => by simp [sentMembers, keepsMembers]
  | (name, value) :: rest => by
      rw [sentMembers, keepsMembers, Bool.and_eq_true, Bool.and_eq_true,
        ← sent_eq_iff _ value, ← sentMembers_eq_iff existing rest]
      split
      · rename_i nameless
        have shorter := length_sentMembers_le wildcard existing rest
        constructor
        · intro same
          rw [same, List.length_cons] at shorter
          omega
        · rintro ⟨⟨named, _⟩, _⟩
          simp [nameless] at named
      · rename_i named
        simp [named]

end

end Place

end Formwork
