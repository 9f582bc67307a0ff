/-
This file shows that the types of a compiled rule set have names that stand for them, if those of
its dynamic types do.
-/

import Formwork.Proofs.Schema.Assembled

namespace Formwork

/-- The names of dynamic types stand for types of their own, if they are not the names of rules that
tell a type anyway. -/
def CompileOptions.DynamicNamed (options : CompileOptions) : Prop :=
  ∀ name ∈ options.dynamicTypes,
    FieldType.nativeRules.find? name = none → (FieldType.other name).Named

instance (options : CompileOptions) : Decidable options.DynamicNamed :=
  inferInstanceAs (Decidable (∀ name ∈ options.dynamicTypes, _ → (FieldType.other name).Named))

namespace TypeResolution

theorem named_join {first second : TypeResolution} (firstNamed : first.type.Named)
    (secondNamed : second.type.Named) : (first.join second).type.Named := by
  rw [join]
  split
  · exact secondNamed
  · exact firstNamed

theorem named_of_classify? {options : CompileOptions} (dynamic : options.DynamicNamed)
    {token : List Char} {resolution : TypeResolution}
    (classified : classify? options token = some resolution) : resolution.type.Named := by
  have native : ∀ entry ∈ FieldType.nativeRules, entry.2.Named := by decide
  rw [classify?] at classified
  repeat' split at classified
  all_goals cases classified
  · decide
  · rename_i found
    exact native _ (Entries.mem_of_find? found)
  · rename_i notNative isDynamic
    exact dynamic _ (by simpa [CompileOptions.isDynamicType] using isDynamic) notNative
  · decide
  · decide
  · decide

theorem named_of_tokenResolution? {options : CompileOptions} (dynamic : options.DynamicNamed)
    {token : String} {resolution : TypeResolution}
    (resolved : tokenResolution? options token = some resolution) : resolution.type.Named := by
  rw [tokenResolution?] at resolved
  split at resolved
  · cases resolved
  · exact named_of_classify? dynamic resolved

/-- The type that the strongest token tells has a name that stands for it. -/
theorem named_resolveType {options : CompileOptions} (dynamic : options.DynamicNamed)
    (tokens : List String) : (resolveType options tokens).type.Named := by
  rw [resolveType]
  refine List.foldlRecOn (motive := fun stronger : TypeResolution => stronger.type.Named) _ _ ?_ ?_
  · decide
  · intro first firstNamed second member
    obtain ⟨token, _, resolved⟩ := List.mem_filterMap.mp member
    exact named_join firstNamed (named_of_tokenResolution? dynamic resolved)

end TypeResolution

namespace FieldInfo

theorem named_typeOf {choices : Option (List Json)} {customType : Option String}
    {resolution : TypeResolution} (named : resolution.type.Named) :
    (typeOf choices customType resolution).Named := by
  rw [typeOf.eq_def]
  split
  · decide
  · split
    · exact FieldType.named_ofName _
    · exact named

theorem typesNamed_ofRules {options : CompileOptions} (dynamic : options.DynamicNamed)
    (path : String) (declaration : Declaration) : (ofRules options path declaration).TypesNamed :=
  ⟨named_typeOf (TypeResolution.named_resolveType dynamic declaration.tokens), nofun⟩

end FieldInfo

namespace RuleSet

/-- Sibling keys are distinct at every level of the schema of a rule set. -/
theorem allKeysDistinct_compile (options : CompileOptions) (rules : RuleSet) :
    SchemaNode.AllKeysDistinct (rules.compile options) := by
  apply allKeysDistinct_assemble
  rw [List.forall_mem_map]
  exact fun _ _ => rfl

theorem typesNamed_compile {options : CompileOptions} (dynamic : options.DynamicNamed)
    (rules : RuleSet) : ∀ node ∈ rules.compile options, node.TypesNamed := by
  apply typesNamed_assemble
  rw [List.forall_mem_map]
  intro entry _
  exact ⟨rfl, FieldInfo.typesNamed_ofRules dynamic entry.1 entry.2⟩

end RuleSet

end Formwork
