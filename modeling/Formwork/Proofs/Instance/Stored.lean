/-
This file shows that stored fields are read back with what they held, and that all fields that are
read are storable.
-/

import Formwork.Proofs.Instance.Storable
import Formwork.Session

namespace Formwork

namespace InstanceNode

/-- Without files a field holds none itself, and no field inside it does. -/
theorem hasFiles_eq_false_iff (node : InstanceNode) :
    node.hasFiles = false ↔
      node.holdsFile = false ∧ ∀ child ∈ node.children, child.hasFiles = false := by
  cases node
  rw [hasFiles, Bool.or_eq_false_iff, anyHasFiles_eq_any, List.any_eq_false]
  simp only [Bool.not_eq_true]
  rfl

theorem sanitized_eq (node : InstanceNode) :
    sanitized node =
      { node with
        value := if node.holdsFile then .null else node.value
        children := node.children.map sanitized
        info := none } := by
  cases node
  rw [sanitized, sanitizedAll_eq_map]
  rfl

theorem readBack_eq (node : InstanceNode) :
    readBack node =
      { node with
        type := node.type.readBack
        value := node.value.settled
        children := node.children.map readBack
        childDef := node.childDef.map ChildDef.readBack
        info := none } := by
  cases node
  rw [readBack, readBackAll_eq_map]

/-- A storable field without files is read back with what it held. -/
theorem content_readBack_sanitized {node : InstanceNode} (storable : node.Storable)
    (noFiles : node.hasFiles = false) : content (readBack (sanitized node)) = content node := by
  induction node using InstanceNode.induction with
  | inside node inductionHypothesis =>
      rw [hasFiles_eq_false_iff] at noFiles
      have sameType : node.type.readBack = node.type := storable.holds.typeNamed
      have sameValue := Json.settled_of_namesDistinct node.value storable.holds.valueDistinct
      have sameInside :
          contents (node.children.map (readBack ∘ sanitized)) = contents node.children := by
        rw [contents_eq_map, contents_eq_map, List.map_map]
        exact List.map_congr_left fun child member =>
          inductionHypothesis child member (storable.inside child member) (noFiles.2 child member)
      have sameShape : (readBack (sanitized node)).shape = node.shape := by
        rw [sanitized_eq, readBack_eq, shape, sameType, shape]
      rw [content_eq, content_eq node, sameShape, sanitized_eq, readBack_eq]
      simp [noFiles.1, sameType, sameValue, sameInside]

theorem holdsStorable_of_headOfDocument? {document : Document} {node : InstanceNode}
    (read : headOfDocument? document = some node) : node.HoldsStorable := by
  simp only [headOfDocument?, Option.bind_eq_bind, Option.bind_eq_some_iff,
    Option.some.injEq] at read
  obtain ⟨part, -, key, -, type, typeRead, value, valueRead, enabled, -, childDef, childDefRead,
    rfl⟩ := read
  have textNamed : FieldType.text.Named := by decide
  have nullDistinct : Json.null.NamesDistinct := trivial
  exact ⟨Document.of_orElse textNamed FieldType.named_of_ofDocument? typeRead,
    Document.of_orElse nullDistinct (Document.namesDistinct_of_value? _) valueRead,
    Document.of_orElse_nullable? ChildDef.typesNamed_of_ofDocument? childDefRead⟩

mutual

/-- Fields that are read are storable. -/
theorem storable_of_ofDocument? : (document : Document) → {node : InstanceNode} →
    ofDocument? document = some node → node.Storable
  | .obj members, _, read => by
      simp only [ofDocument?, Option.bind_eq_bind, Option.bind_eq_some_iff,
        Option.some.injEq] at read
      obtain ⟨head, headRead, children, childrenRead, rfl⟩ := read
      rw [storable_iff]
      have holds := holdsStorable_of_headOfDocument? headRead
      exact ⟨⟨holds.typeNamed, holds.valueDistinct, holds.itemsNamed⟩,
        storable_of_childrenMember? members childrenRead⟩
  | .arr items, _, read => by
      simp only [ofDocument?, Option.bind_eq_bind, Option.bind_eq_some_iff,
        Option.some.injEq] at read
      obtain ⟨head, headRead, children, childrenRead, rfl⟩ := read
      rw [storable_iff]
      have holds := holdsStorable_of_headOfDocument? headRead
      exact ⟨⟨holds.typeNamed, holds.valueDistinct, holds.itemsNamed⟩,
        storable_of_childrenItem? childrenIndex items childrenRead⟩
  | .null, _, read => by cases read
  | .bool _, _, read => by cases read
  | .num _, _, read => by cases read
  | .str _, _, read => by cases read
  | .unusable, _, read => by cases read

theorem storable_of_childrenMember? : (members : List (Option String × Document)) →
    {nodes : List InstanceNode} → childrenMember? members = some nodes →
      AllStorable nodes
  | [], _, read => by cases read; exact allStorable_nil
  | (name, document) :: rest, _, read => by
      rw [childrenMember?] at read
      split at read
      · exact storable_of_children? document read
      · exact storable_of_childrenMember? rest read

theorem storable_of_childrenItem? : (index : Nat) → (items : List Document) →
    {nodes : List InstanceNode} → childrenItem? index items = some nodes →
      AllStorable nodes
  | _, [], _, read => by cases read; exact allStorable_nil
  | 0, document :: _, _, read => storable_of_children? document read
  | index + 1, _ :: rest, _, read => storable_of_childrenItem? index rest read

theorem storable_of_children? : (document : Document) → {nodes : List InstanceNode} →
    children? document = some nodes → AllStorable nodes
  | .arr items, _, read => storable_of_ofDocuments? items read
  | .null, _, read => by cases read
  | .bool _, _, read => by cases read
  | .num _, _, read => by cases read
  | .str _, _, read => by cases read
  | .obj _, _, read => by cases read
  | .unusable, _, read => by cases read

theorem storable_of_ofDocuments? : (documents : List Document) → {nodes : List InstanceNode} →
    ofDocuments? documents = some nodes → AllStorable nodes
  | [], _, read => by cases read; exact allStorable_nil
  | document :: rest, _, read => by
      simp only [ofDocuments?, Option.bind_eq_bind, Option.bind_eq_some_iff,
        Option.some.injEq] at read
      obtain ⟨node, nodeRead, nodes, restRead, rfl⟩ := read
      rw [AllStorable, List.forall_mem_cons]
      exact ⟨storable_of_ofDocument? document nodeRead, storable_of_ofDocuments? rest restRead⟩

end

end InstanceNode

theorem SavedState.storable_of_nodes {state : Json} {fields : List InstanceNode}
    (read : nodes state = .ok fields) : InstanceNode.AllStorable fields := by
  cases state with
  | arr items =>
      simp only [nodes] at read
      split at read
      · rename_i documentsRead
        exact Except.ok.inj read ▸ InstanceNode.storable_of_ofDocuments? _ documentsRead
      · cases read
  | obj members =>
      simp only [nodes] at read
      split at read
      · rename_i documentsRead
        exact Except.ok.inj read ▸ InstanceNode.storable_of_ofDocuments? _ documentsRead
      · cases read
  | null => cases read; exact InstanceNode.allStorable_nil
  | bool value => cases read
  | num value => cases read
  | str text => cases read

namespace Store

/-- Whatever is loaded is storable. -/
theorem allStorable_load (store : Store) (key : String) :
    InstanceNode.AllStorable (store.load key) := by
  rw [load]
  split
  · exact InstanceNode.allStorable_nil
  · split
    · rename_i read
      exact SavedState.storable_of_nodes read
    · exact InstanceNode.allStorable_nil

/-- Storable fields without files are loaded with what they held when they were saved. -/
theorem contents_load {store : Store} {key : String} {nodes : List InstanceNode}
    (saved : store.get? key = some (SavedState.ofNodes nodes))
    (storable : InstanceNode.AllStorable nodes) (noFiles : InstanceNode.anyHasFiles nodes = false) :
    InstanceNode.contents (store.load key) = InstanceNode.contents nodes := by
  rw [InstanceNode.anyHasFiles_eq_any, List.any_eq_false] at noFiles
  rw [load, saved]
  simp only [SavedState.nodes_ofNodes]
  rw [InstanceNode.sanitizedAll_eq_map, InstanceNode.contents_eq_map, InstanceNode.contents_eq_map,
    List.map_map, List.map_map]
  apply List.map_congr_left
  intro node member
  exact InstanceNode.content_readBack_sanitized (storable node member)
    (Bool.eq_false_iff.mpr (noFiles node member))

theorem keep_of_readOnly {store : Store} (refuses : store.readOnly = true) (key : String)
    (nodes : List InstanceNode) : store.keep key nodes = store := by
  rw [keep, save, set, if_pos refuses]

section

variable {store : Store} (writable : store.readOnly = false)
include writable

/-- A store that refuses no writes has what is kept under its key, and all else as before. -/
theorem get?_keep (key other : String) (nodes : List InstanceNode) :
    (store.keep key nodes).get? other =
      if key = other then some (SavedState.ofNodes nodes) else store.get? other := by
  rw [keep, save, set, if_neg (by simp [writable])]
  exact Entries.find?_put key other (SavedState.ofNodes nodes) store.entries

theorem readOnly_keep (key : String) (nodes : List InstanceNode) :
    (store.keep key nodes).readOnly = false := by
  rw [keep, save, set, if_neg (by simp [writable])]
  exact writable

end

end Store

end Formwork
