/-
This file defines the fields that storing keeps apart from their files: their types have names that
stand for them, and no object of their values has a name twice.
-/

import Formwork.Proofs.Codec.Instance
import Formwork.Proofs.Instance.Content
import Formwork.Proofs.Instance.Within
import Formwork.Proofs.Schema.Named

namespace Formwork

namespace ChildDef

/-- The types of new items and of all fields inside them have names that stand for them. -/
def TypesNamed (childDef : ChildDef) : Prop :=
  childDef.type.Named ∧ ∀ node ∈ childDef.schema.getD [], node.TypesNamed

instance : DecidablePred TypesNamed :=
  fun _ => inferInstanceAs (Decidable (_ ∧ _))

theorem typesNamed_of_ofDocument? {document : Document} {childDef : ChildDef}
    (read : ofDocument? document = some childDef) : childDef.TypesNamed := by
  simp only [ofDocument?, Option.bind_eq_bind, Option.bind_eq_some_iff, Option.some.injEq] at read
  obtain ⟨part, -, type, ⟨typePart, -, typeRead⟩, schema, schemaRead, rfl⟩ := read
  refine ⟨FieldType.named_of_ofDocument? typeRead, ?_⟩
  have inside := Document.of_orElse_nullable? SchemaNode.typesNamed_of_listOfDocument? schemaRead
  cases schema with
  | none => exact List.forall_mem_nil _
  | some nodes => exact inside nodes rfl

end ChildDef

namespace InstanceNode

/-- What a field itself holds is read back as it was written. -/
structure HoldsStorable (node : InstanceNode) : Prop where
  typeNamed : node.type.Named
  valueDistinct : node.value.NamesDistinct
  itemsNamed : ∀ childDef ∈ node.childDef, childDef.TypesNamed

instance : DecidablePred HoldsStorable :=
  fun node => decidable_of_iff
    (node.type.Named ∧ node.value.NamesDistinct ∧
      ∀ childDef ∈ node.childDef, childDef.TypesNamed)
    ⟨fun ⟨typeNamed, valueDistinct, itemsNamed⟩ => ⟨typeNamed, valueDistinct, itemsNamed⟩,
      fun holds => ⟨holds.typeNamed, holds.valueDistinct, holds.itemsNamed⟩⟩

/-- What the field and all fields inside it hold is read back as it was written. -/
def Storable : InstanceNode → Prop :=
  Everywhere HoldsStorable

instance : DecidablePred Storable :=
  inferInstanceAs (DecidablePred (Everywhere _))

/-- All fields of a level are storable. -/
def AllStorable (nodes : List InstanceNode) : Prop :=
  ∀ node ∈ nodes, node.Storable

instance : DecidablePred AllStorable :=
  fun nodes => inferInstanceAs (Decidable (∀ node ∈ nodes, node.Storable))

theorem allStorable_nil : AllStorable [] :=
  List.forall_mem_nil _

theorem storable_iff (node : InstanceNode) :
    node.Storable ↔ node.HoldsStorable ∧ AllStorable node.children :=
  everywhere_iff node

theorem Storable.holds {node : InstanceNode} (storable : node.Storable) : node.HoldsStorable :=
  ((storable_iff node).mp storable).1

theorem Storable.inside {node : InstanceNode} (storable : node.Storable) :
    AllStorable node.children :=
  ((storable_iff node).mp storable).2

end InstanceNode

/-- What is storable: every key, the types that their names stand for, and values in which no object
has a name twice. -/
def Allowance.storable : Allowance where
  key _ := True
  type := FieldType.Named
  value := Json.NamesDistinct

theorem Allowance.basic_storable : Allowance.storable.Basic where
  noKey := trivial
  ownType := (by decide : ∀ type ∈ [FieldType.text, .number, .boolean, .object, .array], type.Named)
  scalar value isScalar := by
    cases value with
    | arr _ => cases isScalar
    | obj _ => cases isScalar
    | null => trivial
    | bool _ => trivial
    | num _ => trivial
    | str _ => trivial

theorem SchemaNode.typesNamed_iff_within (node : SchemaNode) :
    node.TypesNamed ↔ node.Within .storable := by
  have sameHolds : (fun node : SchemaNode => node.info.TypesNamed) = HoldsWithin .storable := by
    funext node
    exact propext ⟨fun ⟨typeNamed, itemsNamed⟩ => ⟨trivial, typeNamed, itemsNamed⟩,
      fun holds => ⟨holds.typeAllowed, holds.itemsAllowed⟩⟩
  rw [TypesNamed, sameHolds, Within]

theorem ChildDef.typesNamed_iff_within (childDef : ChildDef) :
    childDef.TypesNamed ↔ childDef.Within .storable := by
  simp only [TypesNamed, SchemaNode.typesNamed_iff_within]
  rfl

namespace InstanceNode

theorem storable_iff_within (node : InstanceNode) : node.Storable ↔ node.Within .storable := by
  have sameHolds : HoldsStorable = HoldsWithin .storable := by
    funext node
    refine propext ⟨fun holds => ?_, fun holds => ?_⟩
    · exact ⟨trivial, holds.typeNamed, holds.valueDistinct, fun childDef defines =>
        childDef.typesNamed_iff_within.mp (holds.itemsNamed childDef defines)⟩
    · exact ⟨holds.typeAllowed, holds.valueAllowed, fun childDef defines =>
        childDef.typesNamed_iff_within.mpr (holds.itemsAllowed childDef defines)⟩
  rw [Storable, sameHolds, Within]

theorem allStorable_iff_within (nodes : List InstanceNode) :
    AllStorable nodes ↔ AllWithin .storable nodes := by
  simp only [AllStorable, storable_iff_within]
  rfl

end InstanceNode

end Formwork
