/-
This file shows that sessions keep fields storable: reconciling, and every edit whose types and
values are storable themselves.
-/

import Formwork.Proofs.Instance.Storable
import Formwork.Proofs.Session.Within

namespace Formwork

theorem InstanceNode.allStorable_reconcileFields [PatternEngine] (wildcard : String)
    {schema : List SchemaNode}
    {nodes : List InstanceNode} (named : ∀ node ∈ schema, node.TypesNamed)
    (storable : AllStorable nodes) : AllStorable (reconcileFields wildcard schema nodes) := by
  simp only [SchemaNode.typesNamed_iff_within] at named
  rw [allStorable_iff_within] at storable ⊢
  exact within_reconcileFields Allowance.basic_storable wildcard named storable

namespace Edit

/-- The types and values that an edit brings along are those that names and JSON texts stand for. -/
def Storable : Edit → Prop
  | setValue _ value => value.NamesDistinct
  | setType _ type => type.Named
  | addField _ _ type => type.Named
  | _ => True

theorem within_of_storable {edit : Edit} (storable : edit.Storable) : edit.Within .storable := by
  cases edit with
  | setValue path value => exact storable
  | setType path type => exact storable
  | addField parent key type => exact ⟨trivial, storable⟩
  | applyText text => exact fun value _ => Json.eachName_of_forall (fun _ => trivial) value
  | setEnabled path enabled => trivial
  | pushItem path => trivial
  | remove path => trivial
  | reset => trivial

/-- Every edit keeps fields storable. -/
theorem allStorable_of_apply [PatternEngine] {options : CompileOptions} {schema : List SchemaNode}
    (named : ∀ node ∈ schema, node.TypesNamed) {nodes after : List InstanceNode}
    (storable : InstanceNode.AllStorable nodes) {edit : Edit} (editStorable : edit.Storable)
    {removed : Option InstanceNode}
    (applied : edit.apply options schema nodes = (.ok removed, after)) :
    InstanceNode.AllStorable after := by
  simp only [SchemaNode.typesNamed_iff_within] at named
  rw [InstanceNode.allStorable_iff_within] at storable ⊢
  exact allWithin_of_apply Allowance.basic_storable named storable
    (within_of_storable editStorable) applied

end Edit

end Formwork
