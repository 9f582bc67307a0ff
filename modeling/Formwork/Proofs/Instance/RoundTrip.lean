/-
This file shows that fields are read exactly as they were stored, and what is not stored of them:
attached files and what the schema says.
-/

import Formwork.Proofs.Instance.Position
import Formwork.Proofs.Instance.Stored

namespace Formwork

/-- A change that leaves each item as it is leaves the list as it is. -/
theorem map_eq_self {Item : Type} {change : Item → Item} {items : List Item}
    (each : ∀ item ∈ items, change item = item) : items.map change = items := by
  have same : items.map change = items.map id := List.map_congr_left each
  rw [same, List.map_id]

namespace FieldInfo

/-- No object of the values to choose from has a name twice. -/
def ChoicesDistinct (info : FieldInfo) : Prop :=
  ∀ choices ∈ info.options, ∀ value ∈ choices, value.NamesDistinct

instance : DecidablePred ChoicesDistinct :=
  fun info =>
    inferInstanceAs (Decidable (∀ choices ∈ info.options, ∀ value ∈ choices, value.NamesDistinct))

theorem readBack_of_named {info : FieldInfo} (named : info.TypesNamed)
    (choicesDistinct : info.ChoicesDistinct) : info.readBack = info := by
  have sameType : info.type.readBack = info.type := named.1
  have sameItems : info.childType.map FieldType.readBack = info.childType := by
    cases itemType : info.childType with
    | none => rfl
    | some type => exact congrArg some (named.2 type itemType)
  have sameChoices : info.options.map (·.map Json.settled) = info.options := by
    cases choices : info.options with
    | none => rfl
    | some values =>
        exact congrArg some (map_eq_self fun value member =>
          Json.settled_of_namesDistinct value (choicesDistinct values choices value member))
  rw [readBack, sameType, sameItems, sameChoices]

end FieldInfo

namespace SchemaNode

/-- No object of the values to choose from has a name twice, in the node and in all nodes inside. -/
def ChoicesDistinct : SchemaNode → Prop :=
  Everywhere fun node => node.info.ChoicesDistinct

instance : DecidablePred ChoicesDistinct :=
  inferInstanceAs (DecidablePred (Everywhere _))

/-- A schema is read exactly as it was written if names stand for its types. -/
theorem readBack_of_typesNamed {node : SchemaNode} (named : node.TypesNamed)
    (choicesDistinct : node.ChoicesDistinct) : readBack node = node := by
  induction node using SchemaNode.induction with
  | inside node inductionHypothesis =>
      obtain ⟨infoNamed, insideNamed⟩ := (typesNamed_iff node).mp named
      obtain ⟨infoDistinct, insideDistinct⟩ := (everywhere_iff node).mp choicesDistinct
      have sameInside : node.schema.map (·.map readBack) = node.schema := by
        obtain ⟨info, _ | nodes⟩ := node
        · rfl
        · exact congrArg some (map_eq_self fun child member =>
            inductionHypothesis child member (insideNamed child member)
              (insideDistinct child member))
      rw [readBack_eq, FieldInfo.readBack_of_named infoNamed infoDistinct, sameInside]
      cases node
      rfl

end SchemaNode

namespace ChildDef

/-- No object of the values to choose from in a new item has a name twice. -/
def ChoicesDistinct (childDef : ChildDef) : Prop :=
  ∀ node ∈ childDef.schema.getD [], node.ChoicesDistinct

instance : DecidablePred ChoicesDistinct :=
  fun childDef => inferInstanceAs (Decidable (∀ node ∈ childDef.schema.getD [], node.ChoicesDistinct))

theorem readBack_of_typesNamed {childDef : ChildDef} (named : childDef.TypesNamed)
    (choicesDistinct : childDef.ChoicesDistinct) : childDef.readBack = childDef := by
  obtain ⟨type, schema⟩ := childDef
  have sameType : type.readBack = type := named.1
  have sameSchema : schema.map (·.map SchemaNode.readBack) = schema := by
    cases schema with
    | none => rfl
    | some nodes =>
        exact congrArg some (map_eq_self fun node member =>
          SchemaNode.readBack_of_typesNamed (named.2 node member) (choicesDistinct node member))
  rw [readBack, sameType, sameSchema]

end ChildDef

namespace InstanceNode

/-- No object of the values to choose from in new items has a name twice, in the field and in all
fields inside it. -/
def ChoicesDistinct : InstanceNode → Prop :=
  Everywhere fun node => ∀ childDef ∈ node.childDef, childDef.ChoicesDistinct

instance : DecidablePred ChoicesDistinct :=
  inferInstanceAs (DecidablePred (Everywhere _))

/-- A storable field is read exactly as it was stored. -/
theorem readBack_sanitized {node : InstanceNode} (storable : node.Storable)
    (choicesDistinct : node.ChoicesDistinct) : readBack (sanitized node) = sanitized node := by
  induction node using InstanceNode.induction with
  | inside node inductionHypothesis =>
      obtain ⟨itemsDistinct, insideDistinct⟩ := (everywhere_iff node).mp choicesDistinct
      have sameType : node.type.readBack = node.type := storable.holds.typeNamed
      have sameValue : (if node.holdsFile then Json.null else node.value).settled =
          if node.holdsFile then .null else node.value := by
        split
        · rfl
        · exact Json.settled_of_namesDistinct node.value storable.holds.valueDistinct
      have sameItems : node.childDef.map ChildDef.readBack = node.childDef := by
        cases defined : node.childDef with
        | none => rfl
        | some childDef =>
            exact congrArg some (ChildDef.readBack_of_typesNamed
              (storable.holds.itemsNamed childDef defined) (itemsDistinct childDef defined))
      have sameInside :
          (node.children.map sanitized).map readBack = node.children.map sanitized := by
        rw [List.map_map]
        exact List.map_congr_left fun child member =>
          inductionHypothesis child member (storable.inside child member)
            (insideDistinct child member)
      rw [sanitized_eq, readBack_eq]
      simp only [sameType, sameValue, sameItems, sameInside]

/-- What is stored of a field alone. -/
def storedAlone (node : InstanceNode) : InstanceNode :=
  { node.alone with
    value := if node.holdsFile then .null else node.value
    info := none }

/-- Storing leaves all fields in their places, and changes each of them alone. -/
theorem levelAt?_sanitizedAll (position : List Nat) (nodes : List InstanceNode) :
    (levelAt? position (sanitizedAll nodes)).map (·.map alone) =
      (levelAt? position nodes).map (·.map storedAlone) := by
  induction position generalizing nodes with
  | nil =>
      simp only [levelAt?, Option.map_some, Option.some.injEq, sanitizedAll_eq_map, List.map_map]
      apply List.map_congr_left
      intro node _
      rw [Function.comp_apply, sanitized_eq]
      rfl
  | cons index rest inductionHypothesis =>
      rw [levelAt?, levelAt?, sanitizedAll_eq_map, List.getElem?_map]
      cases nodes[index]? with
      | none => rfl
      | some node =>
          have inside : (sanitized node).children = sanitizedAll node.children := by
            rw [sanitized_eq, sanitizedAll_eq_map]
          simp only [Option.map_some, Option.bind_some, inside]
          exact inductionHypothesis node.children

theorem holdsFile_sanitized (node : InstanceNode) : (sanitized node).holdsFile = false := by
  rw [sanitized_eq, holdsFile]
  cases holds : node.holdsFile with
  | true => simp [isEmptyValue]
  | false => simpa [holdsFile] using holds

/-- No file is stored. -/
theorem hasFiles_sanitized (node : InstanceNode) : (sanitized node).hasFiles = false := by
  induction node using InstanceNode.induction with
  | inside node inductionHypothesis =>
      rw [hasFiles_eq_false_iff]
      refine ⟨holdsFile_sanitized node, ?_⟩
      rw [sanitized_eq, List.forall_mem_map]
      exact inductionHypothesis

theorem anyHasFiles_sanitizedAll (nodes : List InstanceNode) :
    anyHasFiles (sanitizedAll nodes) = false := by
  rw [anyHasFiles_eq_any, sanitizedAll_eq_map, List.any_eq_false, List.forall_mem_map]
  intro node _
  rw [hasFiles_sanitized]
  exact Bool.false_ne_true

end InstanceNode

/-- Fields whose types names stand for are read exactly as they were stored, from a list as well as
from an object that has them in order under any names. What is stored are the same fields in the
same places, each with its own type, value, state and items but without what the schema says about
it; a file is no value. -/
theorem nodes_of_stored {nodes : List InstanceNode} (storable : InstanceNode.AllStorable nodes)
    (choicesDistinct : ∀ node ∈ nodes, node.ChoicesDistinct) :
    SavedState.nodes (.arr (InstanceNode.nodesToJson (InstanceNode.sanitizedAll nodes))) =
        .ok (InstanceNode.sanitizedAll nodes) ∧
      (∀ members : List (String × Json),
        members.map Prod.snd = InstanceNode.nodesToJson (InstanceNode.sanitizedAll nodes) →
          SavedState.nodes (.obj members) = .ok (InstanceNode.sanitizedAll nodes)) ∧
      (∀ position,
        (InstanceNode.levelAt? position (InstanceNode.sanitizedAll nodes)).map
            (·.map InstanceNode.alone) =
          (InstanceNode.levelAt? position nodes).map (·.map InstanceNode.storedAlone)) ∧
      InstanceNode.anyHasFiles (InstanceNode.sanitizedAll nodes) = false := by
  have sameNodes : (InstanceNode.sanitizedAll nodes).map InstanceNode.readBack =
      InstanceNode.sanitizedAll nodes := by
    rw [InstanceNode.sanitizedAll_eq_map, List.map_map]
    exact List.map_congr_left fun node member =>
      InstanceNode.readBack_sanitized (storable node member) (choicesDistinct node member)
  have read : SavedState.nodes (SavedState.ofNodes nodes) =
      .ok (InstanceNode.sanitizedAll nodes) := by
    rw [SavedState.nodes_ofNodes, sameNodes]
  refine ⟨read, ?_, fun position => InstanceNode.levelAt?_sanitizedAll position nodes,
    InstanceNode.anyHasFiles_sanitizedAll nodes⟩
  intro members sameItems
  calc
    SavedState.nodes (.obj members) = SavedState.nodes (.arr (members.map Prod.snd)) := rfl
    _ = SavedState.nodes (SavedState.ofNodes nodes) := by rw [sameItems, SavedState.ofNodes]
    _ = .ok (InstanceNode.sanitizedAll nodes) := read

/-- A scan inside a list whose items have a size to choose, next to a field of a type of its own that
is not sent. -/
def scannedFields : List InstanceNode :=
  [{ InstanceNode.fresh "scans" .array with
      children :=
        [{ InstanceNode.fresh "" .object with
          children := [{ InstanceNode.fresh "page" .file with value := .str "page.png" }] }]
      childDef := some ⟨.object,
        some [.leaf { key := "size", type := .select, options := some [.str "A4", .null] }]⟩
      info := some { key := "scans", type := .object, isList := true } },
    { InstanceNode.fresh "id" (.other "uuid") with enabled := false }]

/-- The scan is not stored, and all else is read as it was. -/
theorem nodes_of_stored_scanned :
    InstanceNode.AllStorable scannedFields ∧
      (∀ node ∈ scannedFields, node.ChoicesDistinct) ∧
      SavedState.nodes (.obj [("b", (InstanceNode.sanitizedAll scannedFields)[0].toJson),
          ("a", (InstanceNode.sanitizedAll scannedFields)[1].toJson)]) =
        .ok
          [{ InstanceNode.fresh "scans" .array with
              children :=
                [{ InstanceNode.fresh "" .object with
                  children := [{ InstanceNode.fresh "page" .file with value := .null }] }]
              childDef := some ⟨.object,
                some [.leaf { key := "size", type := .select, options := some [.str "A4", .null] }]⟩ },
            { InstanceNode.fresh "id" (.other "uuid") with enabled := false }] := by
  have storable : InstanceNode.AllStorable scannedFields := by decide
  have choicesDistinct : ∀ node ∈ scannedFields, node.ChoicesDistinct := by decide
  exact ⟨storable, choicesDistinct, (nodes_of_stored storable choicesDistinct).2.1 _ rfl⟩

end Formwork
