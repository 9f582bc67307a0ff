/-
This file shows when the schemas of rule sets are read exactly as they were written: exactly if no
dynamic type has the name of another type.
-/

import Formwork.Proofs.Instance.RoundTrip
import Formwork.Proofs.Schema.Compiled

namespace Formwork

/-- No object of the values that rule objects list has a name twice. -/
def Declaration.ValuesDistinct (declaration : Declaration) : Prop :=
  ∀ rule ∈ declaration.objects, ∀ values ∈ Enumeration.objectValues? rule,
    ∀ value ∈ values, value.NamesDistinct

instance : DecidablePred Declaration.ValuesDistinct :=
  fun declaration => inferInstanceAs (Decidable (∀ rule ∈ declaration.objects, _))

/-- No object of the values that the rules list has a name twice. -/
def RuleSet.ValuesDistinct (rules : RuleSet) : Prop :=
  ∀ entry ∈ rules.entries, entry.2.ValuesDistinct

instance : DecidablePred RuleSet.ValuesDistinct :=
  fun rules => inferInstanceAs (Decidable (∀ entry ∈ rules.entries, _))

theorem Enumeration.namesDistinct_of_tokenValues? {token : String} {values : List Json}
    (listed : tokenValues? token = some values) : ∀ value ∈ values, value.NamesDistinct := by
  rw [tokenValues?] at listed
  split at listed
  · obtain ⟨rest, _, rfl⟩ := Option.map_eq_some_iff.mp listed
    rw [List.forall_mem_map]
    exact fun _ _ => trivial
  · cases listed

namespace FieldInfo

/-- The values to choose from are texts or come from rule objects. -/
theorem choicesDistinct_ofRules {declaration : Declaration}
    (distinct : declaration.ValuesDistinct) (options : CompileOptions) (path : String) :
    (ofRules options path declaration).ChoicesDistinct := by
  intro choices chosen
  have sources : Enumeration.choices? declaration declaration.tokens = some choices := chosen
  rw [Enumeration.choices?, Option.orElse_eq_orElse, Option.orElse_eq_or,
    Option.or_eq_some_iff] at sources
  rcases sources with ofObject | ⟨_, ofToken⟩
  · obtain ⟨rule, member, listed⟩ :=
      List.mem_filterMap.mp (List.mem_of_getLast? ofObject)
    exact distinct rule member choices listed
  · obtain ⟨token, _, listed⟩ := List.mem_filterMap.mp (List.mem_of_getLast? ofToken)
    exact Enumeration.namesDistinct_of_tokenValues? listed

theorem choicesDistinct_of_none {info : FieldInfo} (none : info.options = none) :
    info.ChoicesDistinct := by
  intro choices chosen
  rw [none] at chosen
  cases chosen

end FieldInfo

namespace SchemaNode

/-- A leaf whose values to choose from hold no name twice in an object. -/
def ChoosingLeaf (leaf : SchemaNode) : Prop :=
  leaf.IsLeaf ∧ leaf.info.ChoicesDistinct

theorem choicesDistinct_ofItems (options : CompileOptions) (info : FieldInfo)
    (item : Option SchemaNode) (fields : List SchemaNode) :
    (ofItems options info item fields).info.ChoicesDistinct := by
  apply FieldInfo.choicesDistinct_of_none
  rw [ofItems]
  repeat' split
  all_goals rfl

theorem choicesDistinct_normalize {node : SchemaNode} (distinct : node.info.ChoicesDistinct) :
    node.normalize.info.ChoicesDistinct := by
  rw [normalize]
  split <;> exact distinct

end SchemaNode

theorem choicesDistinct_assemble (options : CompileOptions) {entries : List (String × SchemaNode)}
    (leaves : ∀ entry ∈ entries, entry.2.ChoosingLeaf) :
    ∀ node ∈ assemble options entries, node.ChoicesDistinct := by
  apply everywhere_assemble options leaves
  · intro leaf choosingLeaf
    rw [choosingLeaf.1]
    nofun
  · intro branch grown
    rcases PathTree.node_cases options branch with ⟨item, _, same⟩ | ⟨_, same⟩ | same
    · rw [same]
      exact SchemaNode.choicesDistinct_ofItems options _ item.leaf _
    · rw [same]
      apply SchemaNode.choicesDistinct_normalize
      obtain ⟨key, _ | leaf, children⟩ := branch
      · exact FieldInfo.choicesDistinct_of_none rfl
      · exact (((PathTree.grown_iff _).mp grown).1 leaf rfl).2
    · rw [same]
      exact FieldInfo.choicesDistinct_of_none rfl

namespace RuleSet

theorem choicesDistinct_compile (options : CompileOptions) {rules : RuleSet}
    (distinct : rules.ValuesDistinct) :
    ∀ node ∈ rules.compile options, node.ChoicesDistinct := by
  apply choicesDistinct_assemble
  rw [List.forall_mem_map]
  intro entry member
  exact ⟨rfl, FieldInfo.choicesDistinct_ofRules (distinct entry member) options entry.1⟩

/-- A written schema is read as it was if its types are those that their names stand for. -/
theorem map_readBack_compile {options : CompileOptions} (dynamic : options.DynamicNamed)
    {rules : RuleSet} (distinct : rules.ValuesDistinct) :
    (rules.compile options).map SchemaNode.readBack = rules.compile options :=
  map_eq_self fun node member =>
    SchemaNode.readBack_of_typesNamed (typesNamed_compile dynamic rules node member)
      (choicesDistinct_compile options distinct node member)

end RuleSet

namespace FieldType

/-- The fixed types whose names are those of no rule. -/
def ruleless : List String :=
  ["text", "string", "number", "color", "file", "select", "object"]

theorem mem_ruleless {name : String} (notNative : nativeRules.find? name = none)
    (notNamed : ¬(other name).Named) : name ∈ ruleless := by
  have fixed : ∀ entry ∈ fixedNames, nativeRules.find? entry.1 = none → entry.1 ∈ ruleless := by
    decide
  cases found : fixedNames.find? name with
  | some type => exact fixed (name, type) (Entries.mem_of_find? found) notNative
  | none =>
      refine absurd ?_ notNamed
      rw [Named, readBack, FieldType.name, ofName, found, Option.getD_none]

end FieldType

namespace FieldInfo

/-- A rule of the name of a fixed type tells a type of that name if it is a dynamic type. -/
theorem type_ofRules_ruleless {options : CompileOptions} {name : String}
    (ruleless : name ∈ FieldType.ruleless) (dynamic : name ∈ options.dynamicTypes) (path : String) :
    (ofRules options path (.text (name ++ ":"))).type = .other name := by
  have read : ∀ name ∈ FieldType.ruleless,
      Declaration.textTokens (name ++ ":") = [name ++ ":"] ∧
        Text.lowercase (Text.trim (name ++ ":").toList) = (name ++ ":").toList ∧
        Enumeration.tokenValues? (name ++ ":") = none := by decide
  have classified : ∀ name ∈ FieldType.ruleless,
      isFileIndicator (name ++ ":").toList = false ∧ ruleName (name ++ ":").toList = name ∧
        FieldType.nativeRules.find? name = none := by decide
  obtain ⟨tokens, lower, noValues⟩ := read name ruleless
  obtain ⟨noFile, isName, notNative⟩ := classified name ruleless
  have isDynamic : options.isDynamicType name = true := by
    simpa [CompileOptions.isDynamicType] using dynamic
  have classifies : classify? options (name ++ ":").toList = some ⟨.other name, .dynamicFormat⟩ := by
    rw [classify?, noFile, isName, notNative]
    simp [isDynamic]
  have resolution :
      tokenResolution? options (name ++ ":") = some ⟨.other name, .dynamicFormat⟩ := by
    rw [tokenResolution?, lower]
    split
    · rename_i empty
      simp at empty
    · exact classifies
  have resolved : resolveType options [name ++ ":"] = ⟨.other name, .dynamicFormat⟩ := by
    rw [resolveType, List.filterMap_cons_some resolution]
    rfl
  have noChoices : Enumeration.choices? (.text (name ++ ":")) [name ++ ":"] = none := by
    rw [Enumeration.choices?, List.filterMap_cons_none noValues]
    rfl
  simp only [ofRules, Declaration.tokens, tokens, resolved, noChoices]
  rfl

end FieldInfo

/-- The schemas of all rule sets are read exactly as they were written, exactly if the names of
dynamic types stand for types of their own. -/
theorem dynamicNamed_iff_read_as_written (options : CompileOptions) :
    options.DynamicNamed ↔
      ∀ rules : RuleSet, rules.ValuesDistinct →
        SchemaNode.listOfDocument?
            (Json.arr (SchemaNode.nodesToJson (rules.compile options))).document =
          some (rules.compile options) := by
  constructor
  · intro dynamic rules distinct
    rw [SchemaNode.listOfDocument?_nodesToJson, RuleSet.map_readBack_compile dynamic distinct]
  · intro readAsWritten name member notNative
    refine Decidable.byContradiction fun notNamed => notNamed ?_
    have ruleless := FieldType.mem_ruleless notNative notNamed
    let rules : RuleSet := .ofList [("field", .text (name ++ ":"))]
    let info := FieldInfo.ofRules options "field" (.text (name ++ ":"))
    have compiled : rules.compile options =
        [SchemaNode.normalize ⟨info.atKey options "field", none⟩] := rfl
    have noObjects : rules.ValuesDistinct := by
      simp [rules, RuleSet.ValuesDistinct, Declaration.ValuesDistinct, RuleSet.ofList,
        RuleSet.insert, RuleSet.empty, Entries.put, Declaration.objects]
    have same := readAsWritten rules noObjects
    rw [SchemaNode.listOfDocument?_nodesToJson, compiled, Option.some.injEq, List.map_singleton,
      List.cons.injEq, SchemaNode.readBack_eq] at same
    have sameType := congrArg (fun node => node.info.type) same.1
    have isOther : info.type = .other name := FieldInfo.type_ofRules_ruleless ruleless member "field"
    rw [FieldInfo.readBack, (SchemaNode.type_normalize _).1] at sameType
    rwa [← isOther]

/-- The rules of a parcel, in which a choice has an object among its values. -/
def parcelRules : RuleSet :=
  .ofList
    [("sizes.*.unit", .object (.oneOf [.str "mm", .obj [("name", .str "inch")]])),
      ("code", .text "uuid|size:12"), ("meta.*", .text "string"), ("labels.*", .text "ip")]

/-- The types of a parcel are read as they were written. -/
theorem dynamicNamed_iff_read_as_written_parcel :
    parcelRules.ValuesDistinct ∧
      SchemaNode.listOfDocument?
          (Json.arr (SchemaNode.nodesToJson (parcelRules.compile {}))).document =
        some (parcelRules.compile {}) ∧
      (parcelRules.compile {}).map (fun node => (node.key, node.info.type, node.info.childType)) =
        [("sizes", .object, none), ("code", .other "uuid", none), ("meta", .object, none),
          ("labels", .array, some (.other "ip"))] := by
  have distinct : parcelRules.ValuesDistinct := by decide
  have dynamic : ({} : CompileOptions).DynamicNamed := by decide
  exact ⟨distinct, (dynamicNamed_iff_read_as_written {}).mp dynamic parcelRules distinct,
    by decide +kernel⟩

/-- A dynamic type of the name of objects is a scalar until it is written and read. -/
theorem dynamic_object_read_as_object :
    let options : CompileOptions := { dynamicTypes := ["object"] }
    let nodes := (RuleSet.ofList [("size", .text "object")]).compile options
    nodes.map (·.shape) = [.scalar] ∧
      (SchemaNode.listOfDocument? (Json.arr (SchemaNode.nodesToJson nodes)).document).map
          (·.map (·.shape)) = some [.object] ∧
      SchemaNode.listOfDocument? (Json.arr (SchemaNode.nodesToJson nodes)).document ≠
        some nodes := by
  decide +kernel

end Formwork
