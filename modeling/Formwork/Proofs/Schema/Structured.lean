/-
This file shows that the parts of a node in a compiled schema agree: what is inside it tells its
type, its key tells whether it is a template, and a choice of values makes a selection.
-/

import Formwork.Proofs.Schema.Compiled
import Formwork.Proofs.Schema.Inferred
import Formwork.Schema.Compile

namespace Formwork

namespace SchemaNode

/-- An object is what has fields inside, an array what has a type of items, and a template what has
the wildcard next to other text in its key. A dynamic type that is only named like an object or an
array is neither. -/
structure Structured (wildcard : String) (node : SchemaNode) : Prop where
  object_iff : node.info.type = .object ↔ node.schema.isSome
  array_iff : node.info.type = .array ↔ node.info.childType.isSome
  -- a node with both would have two types
  notBoth : ¬(node.schema.isSome ∧ node.info.childType.isSome) :=
    fun ⟨hasFields, hasItems⟩ =>
      nomatch (object_iff.mpr hasFields).symm.trans (array_iff.mpr hasItems)
  object_of_isList : node.info.isList → node.info.type = .object
  isPattern_iff :
    node.info.isPattern ↔
      wildcard ≠ "" ∧ wildcard.toList <:+: node.key.toList ∧ node.key ≠ wildcard

/-- All nodes are structured, and sibling keys are distinct at every level. -/
def AllStructured (wildcard : String) (nodes : List SchemaNode) : Prop :=
  AllKeysDistinct nodes ∧ ∀ node ∈ nodes, node.Everywhere (Structured wildcard)

/-- A node that has values to choose from is a selection. -/
def SelectsOptions (node : SchemaNode) : Prop :=
  node.info.options.isSome → node.info.type = .select

end SchemaNode

/-- The flag for templates is what the key says. -/
def FieldInfo.Flagged (wildcard : String) (info : FieldInfo) : Prop :=
  info.isPattern = Text.isTemplate wildcard info.key

theorem FieldInfo.isPattern_iff_of_flagged {wildcard : String} {info : FieldInfo}
    (flagged : info.Flagged wildcard) :
    info.isPattern ↔ wildcard ≠ "" ∧ wildcard.toList <:+: info.key.toList ∧ info.key ≠ wildcard := by
  rw [flagged]
  exact Text.isTemplate_iff wildcard info.key

namespace SchemaNode

section

variable {wildcard : String} {info : FieldInfo}

theorem structured_object {fields : List SchemaNode} (isObject : info.type = .object)
    (noItems : info.childType = none) (flagged : info.Flagged wildcard) :
    Structured wildcard ⟨info, some fields⟩ where
  object_iff := by simp [isObject]
  array_iff := by simp [isObject, noItems]
  object_of_isList := fun _ => isObject
  isPattern_iff := FieldInfo.isPattern_iff_of_flagged flagged

theorem structured_array {itemType : FieldType} (isArray : info.type = .array)
    (items : info.childType = some itemType) (single : info.isList = false)
    (flagged : info.Flagged wildcard) : Structured wildcard (leaf info) where
  object_iff := by simp [leaf, isArray]
  array_iff := by simp [leaf, isArray, items]
  object_of_isList := by simp [leaf, single]
  isPattern_iff := FieldInfo.isPattern_iff_of_flagged flagged

theorem structured_scalar (isScalar : info.type.shape = .scalar) (noItems : info.childType = none)
    (single : info.isList = false) (flagged : info.Flagged wildcard) :
    Structured wildcard (leaf info) := by
  have notObject : info.type ≠ .object := fun same => by simp [same, FieldType.shape] at isScalar
  have notArray : info.type ≠ .array := fun same => by simp [same, FieldType.shape] at isScalar
  exact {
    object_iff := by simp [leaf, notObject]
    array_iff := by simp [leaf, notArray, noItems]
    object_of_isList := by simp [leaf, single]
    isPattern_iff := FieldInfo.isPattern_iff_of_flagged flagged }

end

section

variable {options : CompileOptions}

theorem structured_ofItems {info : FieldInfo} (flagged : info.Flagged options.wildcard)
    (item : Option SchemaNode) (fields : List SchemaNode) :
    (ofItems options info item fields).Structured options.wildcard := by
  have object (isList : Bool) (inside : List SchemaNode) :
      Structured options.wildcard ⟨info.asObject isList, some inside⟩ :=
    structured_object rfl rfl flagged
  rw [ofItems]
  split
  · exact object true fields
  · split
    · exact object true []
    · split
      · exact object false []
      · exact structured_array rfl rfl rfl flagged

theorem structured_normalize {node : SchemaNode} (flagged : node.info.Flagged options.wildcard) :
    node.normalize.Structured options.wildcard := by
  rw [normalize]
  split
  · rename_i isObject
    exact structured_object isObject rfl flagged
  · rename_i isArray
    exact structured_array isArray rfl rfl flagged
  · rename_i notObject notArray
    have isScalar : node.info.type.shape = .scalar := by
      rw [FieldType.shape.eq_def]
      split <;> simp_all
    exact structured_scalar isScalar rfl rfl flagged

theorem selectsOptions_ofItems (info : FieldInfo) (item : Option SchemaNode)
    (fields : List SchemaNode) : (ofItems options info item fields).SelectsOptions := by
  have noOptions : (ofItems options info item fields).info.options = none := by
    rw [ofItems]
    repeat' split
    all_goals rfl
  intro hasOptions
  rw [noOptions] at hasOptions
  cases hasOptions

theorem selectsOptions_normalize {node : SchemaNode} (selects : node.SelectsOptions) :
    node.normalize.SelectsOptions := by
  rw [normalize]
  split <;> exact selects

end

/-- A leaf whose flag for templates is left to its place. -/
def UnflaggedLeaf (leaf : SchemaNode) : Prop :=
  leaf.IsLeaf ∧ leaf.info.isPattern = false

/-- A leaf that is a selection if it has values to choose from. -/
def SelectingLeaf (leaf : SchemaNode) : Prop :=
  leaf.IsLeaf ∧ leaf.SelectsOptions

end SchemaNode

section

variable (options : CompileOptions) {entries : List (String × SchemaNode)}

theorem PathTree.flagged_startInfo {branch : PathTree}
    (unflagged : ∀ leaf ∈ branch.leaf, leaf.info.isPattern = false) :
    (branch.startInfo options).Flagged options.wildcard := by
  have notYet : branch.start.info.isPattern = false := by
    obtain ⟨key, _ | leaf, children⟩ := branch
    · rfl
    · exact unflagged leaf rfl
  rw [FieldInfo.Flagged, startInfo, FieldInfo.atKey, notYet, Bool.false_or]

/-- A schema that is assembled from leaves is structured. -/
theorem allStructured_assemble (leaves : ∀ entry ∈ entries, entry.2.UnflaggedLeaf) :
    SchemaNode.AllStructured options.wildcard (assemble options entries) := by
  refine ⟨allKeysDistinct_assemble options fun entry member => (leaves entry member).1, ?_⟩
  apply everywhere_assemble options leaves
  · intro leaf unflaggedLeaf
    rw [unflaggedLeaf.1]
    nofun
  · intro branch grown
    have leafUnflagged := ((PathTree.grown_iff branch).mp grown).1
    have flagged :=
      PathTree.flagged_startInfo options fun leaf isLeaf => (leafUnflagged leaf isLeaf).2
    rcases PathTree.node_cases options branch with ⟨item, _, same⟩ | ⟨_, same⟩ | same
    · rw [same]
      exact SchemaNode.structured_ofItems flagged item.leaf _
    · rw [same]
      exact SchemaNode.structured_normalize flagged
    · rw [same]
      exact SchemaNode.structured_object rfl rfl flagged

/-- Values to choose from make selections in a schema that is assembled from leaves in which they
do. -/
theorem selectsOptions_assemble (leaves : ∀ entry ∈ entries, entry.2.SelectingLeaf) :
    ∀ node ∈ assemble options entries, node.Everywhere SchemaNode.SelectsOptions := by
  apply everywhere_assemble options leaves
  · intro leaf selectingLeaf
    rw [selectingLeaf.1]
    nofun
  · intro branch grown
    rcases PathTree.node_cases options branch with ⟨item, _, same⟩ | ⟨_, same⟩ | same
    · rw [same]
      exact SchemaNode.selectsOptions_ofItems _ item.leaf _
    · rw [same]
      apply SchemaNode.selectsOptions_normalize
      obtain ⟨key, _ | leaf, children⟩ := branch
      · nofun
      · exact (((PathTree.grown_iff _).mp grown).1 leaf rfl).2
    · rw [same]
      nofun

theorem RuleSet.allStructured_compile (rules : RuleSet) :
    SchemaNode.AllStructured options.wildcard (rules.compile options) := by
  apply allStructured_assemble
  rw [List.forall_mem_map]
  exact fun _ _ => ⟨rfl, rfl⟩

theorem FieldInfo.selectsOptions_ofRules (path : String) (declaration : Declaration) :
    (SchemaNode.leaf (ofRules options path declaration)).SelectsOptions := by
  intro hasOptions
  exact if_pos hasOptions

theorem RuleSet.selectsOptions_compile (rules : RuleSet) :
    ∀ node ∈ rules.compile options, node.Everywhere SchemaNode.SelectsOptions := by
  apply selectsOptions_assemble
  rw [List.forall_mem_map]
  intro entry _
  exact ⟨rfl, FieldInfo.selectsOptions_ofRules options entry.1 entry.2⟩

theorem allStructured_compileManual (parameters : List ManualParam) :
    SchemaNode.AllStructured options.wildcard (compileManual options parameters) := by
  apply allStructured_assemble
  rw [List.forall_mem_map]
  exact fun _ _ => ⟨rfl, rfl⟩

end

namespace SchemaNode

theorem structured_ofMember (wildcard key : String) (value : Json) :
    (ofMember wildcard key value).Structured wildcard := by
  have flagged : (FieldInfo.ofExample wildcard key value).Flagged wildcard := rfl
  have isScalar : (FieldInfo.ofExample wildcard key value).type.shape = .scalar := by
    cases value <;> rfl
  rcases ofMember_cases wildcard key value with ⟨isList, same⟩ | ⟨_, ⟨itemType, same⟩ | same⟩
  · rw [same]
    exact structured_object rfl rfl flagged
  · rw [same]
    exact structured_array rfl rfl rfl flagged
  · rw [same]
    exact structured_scalar isScalar rfl rfl flagged

theorem allStructured_ofExample (wildcard : String) {value : Json}
    (distinct : value.NamesDistinct) : AllStructured wildcard (ofExample wildcard value) :=
  ⟨allKeysDistinct_ofExample wildcard distinct,
    everywhere_ofExample (fun key value _ => structured_ofMember wildcard key value) value
      distinct⟩

end SchemaNode

/-- The schemas of rules, of manual parameters and of examples are structured, and a choice of
values in rules makes a selection. -/
theorem schemas_structured (options : CompileOptions) :
    (∀ rules : RuleSet,
        SchemaNode.AllStructured options.wildcard (rules.compile options) ∧
          ∀ node ∈ rules.compile options, node.Everywhere SchemaNode.SelectsOptions) ∧
      (∀ parameters : List ManualParam,
        SchemaNode.AllStructured options.wildcard (compileManual options parameters)) ∧
      ∀ value : Json, value.NamesDistinct →
        SchemaNode.AllStructured options.wildcard (SchemaNode.ofExample options.wildcard value) :=
  ⟨fun rules =>
      ⟨rules.allStructured_compile options, rules.selectsOptions_compile options⟩,
    allStructured_compileManual options,
    fun _ distinct => SchemaNode.allStructured_ofExample options.wildcard distinct⟩

/-- Translations by templates, a list in a list, and a list of scalars. -/
def translations : Json :=
  .obj
    [("lang_*", .obj [("*", .str "hello"), ("a*b", .null)]),
      ("items", .arr [.arr [.obj [("sku", .str "A1")]]]), ("scores", .arr [.bool true])]

/-- The translations are under a template, and only the lists in a list become a list of objects. -/
theorem schemas_structured_translations :
    translations.NamesDistinct ∧
      SchemaNode.AllStructured "*" (SchemaNode.ofExample "*" translations) ∧
      (SchemaNode.ofExample "*" translations).map
          (fun node => (node.key, node.info.type, node.info.isList, node.info.isPattern)) =
        [("lang_*", .object, false, true), ("items", .object, true, false),
          ("scores", .array, false, false)] := by
  have distinct : translations.NamesDistinct := by decide
  exact ⟨distinct, (schemas_structured {}).2.2 translations distinct, by decide⟩

end Formwork
