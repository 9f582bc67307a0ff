/-
This file shows what holds of every node of an assembled schema: sibling keys are distinct, and
types have names that stand for them if the types of the leaves do.
-/

import Formwork.Proofs.Schema.Distinct
import Formwork.Proofs.Schema.Grown
import Formwork.Proofs.Schema.Named

namespace Formwork

namespace PathTree

variable (options : CompileOptions)

theorem nodes_eq_map (branches : List PathTree) :
    nodes options branches = branches.map (node options) := by
  induction branches with
  | nil => rfl
  | cons branch rest inductionHypothesis => rw [nodes, inductionHypothesis, List.map_cons]

theorem wildcardPart_eq_map (branches : List PathTree) :
    wildcardPart options branches =
      (branches.find? (·.key = options.wildcard)).map fun branch =>
        (branch.leaf, nodes options branch.children) := by
  induction branches with
  | nil => rfl
  | cons branch rest inductionHypothesis =>
      obtain ⟨key, leaf, children⟩ := branch
      rw [wildcardPart, List.find?_cons, inductionHypothesis]
      by_cases here : key = options.wildcard <;> simp [here]

/-- The node that a branch starts from: its leaf, else an object. -/
def start (branch : PathTree) : SchemaNode :=
  branch.leaf.getD (.leaf { key := branch.key, type := .object })

/-- What the schema says about the node that a branch starts from. -/
def startInfo (branch : PathTree) : FieldInfo :=
  branch.start.info.atKey options branch.key

/-- A branch becomes a list or an object of what is below its wildcard, a leaf, or an object of what
is below it. -/
theorem node_cases (branch : PathTree) :
    (∃ item ∈ branch.children,
        node options branch =
          .ofItems options (branch.startInfo options) item.leaf (nodes options item.children)) ∨
      (branch.children = [] ∧
        node options branch = .normalize ⟨branch.startInfo options, branch.start.schema⟩) ∨
      node options branch =
        ⟨(branch.startInfo options).asObject false, some (nodes options branch.children)⟩ := by
  obtain ⟨key, leaf, children⟩ := branch
  rw [node, wildcardPart_eq_map]
  cases found : children.find? (·.key = options.wildcard) with
  | some item => exact .inl ⟨item, List.mem_of_find?_eq_some found, rfl⟩
  | none =>
      by_cases empty : children = []
      · refine .inr (.inl ⟨empty, ?_⟩)
        simp only [empty]
        rfl
      · refine .inr (.inr ?_)
        simp only [List.isEmpty_iff, empty]
        rfl

end PathTree

namespace SchemaNode

theorem children_ofItems (options : CompileOptions) (info : FieldInfo) (item : Option SchemaNode)
    (fields : List SchemaNode) : (ofItems options info item fields).children = fields := by
  rw [ofItems]
  by_cases empty : fields = []
  · simp only [empty]
    split
    · contradiction
    · split
      · rfl
      · split <;> rfl
  · simp [empty, children]

theorem children_normalize (node : SchemaNode) :
    node.normalize.children = if node.info.type = .object then node.children else [] := by
  rw [normalize]
  split <;> simp_all [children]

theorem key_ofItems (options : CompileOptions) (info : FieldInfo) (item : Option SchemaNode)
    (fields : List SchemaNode) : (ofItems options info item fields).key = info.key := by
  rw [ofItems]
  repeat' split
  all_goals rfl

theorem key_normalize (node : SchemaNode) : node.normalize.key = node.key := by
  rw [normalize]
  split <;> rfl

/-- A field with nothing below it keeps its type and the values to choose from. -/
theorem type_normalize (node : SchemaNode) :
    node.normalize.info.type = node.info.type ∧
      node.normalize.info.options = node.info.options := by
  rw [normalize]
  split
  all_goals exact ⟨rfl, rfl⟩

end SchemaNode

namespace PathTree

variable (options : CompileOptions)

/-- The node of a branch has the segment of the branch as its key. -/
theorem key_node (branch : PathTree) : (node options branch).key = branch.key := by
  rcases node_cases options branch with ⟨item, _, same⟩ | ⟨_, same⟩ | same
  · rw [same, SchemaNode.key_ofItems]
    rfl
  · rw [same, SchemaNode.key_normalize]
    rfl
  · rw [same]
    rfl

theorem keys_nodes (branches : List PathTree) :
    (nodes options branches).map (·.key) = branches.map (·.key) := by
  rw [nodes_eq_map, List.map_map]
  exact List.map_congr_left fun branch _ => key_node options branch

theorem siblingsDistinct_nodes {property : SchemaNode → Prop} {branches : List PathTree}
    (grown : AllGrown property branches) : SchemaNode.SiblingsDistinct (nodes options branches) := by
  rw [SchemaNode.SiblingsDistinct, keys_nodes]
  exact grown.1

/-- The fields inside the node of a branch are those of its leaf, or those of the branches below it
or below its wildcard. -/
theorem children_node (branch : PathTree) :
    (∀ child ∈ (node options branch).children, ∃ leaf ∈ branch.leaf, child ∈ leaf.children) ∨
      (node options branch).children = nodes options branch.children ∨
      ∃ item ∈ branch.children, (node options branch).children = nodes options item.children := by
  rcases node_cases options branch with ⟨item, member, same⟩ | ⟨_, same⟩ | same
  · refine .inr (.inr ⟨item, member, ?_⟩)
    rw [same, SchemaNode.children_ofItems]
  · refine .inl ?_
    rw [same, SchemaNode.children_normalize]
    split
    · intro child member
      obtain ⟨key, _ | leaf, children⟩ := branch
      · cases member
      · exact ⟨leaf, rfl, member⟩
    · nofun
  · refine .inr (.inl ?_)
    rw [same]
    rfl

variable {property holds : SchemaNode → Prop}

/-- What holds of the node of every grown branch, and of the nodes inside leaves, holds of all nodes
inside the node of a grown branch. -/
theorem everywhere_node
    (inside : ∀ leaf, property leaf → ∀ child ∈ leaf.children, child.Everywhere holds)
    (here : ∀ branch, Grown property branch → holds (node options branch)) (branch : PathTree)
    (grown : Grown property branch) :
    (node options branch).Everywhere holds ∧
      ∀ child ∈ nodes options branch.children, child.Everywhere holds := by
  induction branch using PathTree.induction with
  | below branch inductionHypothesis =>
      obtain ⟨leafHas, childrenGrown⟩ := (grown_iff branch).mp grown
      have below : ∀ child ∈ nodes options branch.children, child.Everywhere holds := by
        rw [nodes_eq_map, List.forall_mem_map]
        exact fun child member =>
          (inductionHypothesis child member (childrenGrown.2 child member)).1
      refine ⟨?_, below⟩
      rw [SchemaNode.everywhere_iff]
      refine ⟨here branch grown, ?_⟩
      rcases children_node options branch with ofLeaf | same | ⟨item, member, same⟩
      · intro child childMember
        obtain ⟨leaf, isLeaf, ofChildren⟩ := ofLeaf child childMember
        exact inside leaf (leafHas leaf isLeaf) child ofChildren
      · rwa [same]
      · rw [same]
        exact (inductionHypothesis item member (childrenGrown.2 item member)).2

end PathTree

section

variable (options : CompileOptions) {entries : List (String × SchemaNode)}

/-- What holds of the node of every branch that grows from leaves holds of all nodes of the schema
that is assembled from such leaves. -/
theorem everywhere_assemble {property holds : SchemaNode → Prop}
    (leaves : ∀ entry ∈ entries, property entry.2)
    (inside : ∀ leaf, property leaf → ∀ child ∈ leaf.children, child.Everywhere holds)
    (here : ∀ branch, PathTree.Grown property branch → holds (PathTree.node options branch)) :
    ∀ node ∈ assemble options entries, node.Everywhere holds := by
  have grown := PathTree.allGrown_foldl_insert leaves PathTree.allGrown_nil
  rw [assemble, PathTree.nodes_eq_map, List.forall_mem_map]
  exact fun branch member =>
    (PathTree.everywhere_node options inside here branch (grown.2 branch member)).1

/-- A node without fields inside it. -/
def SchemaNode.IsLeaf (node : SchemaNode) : Prop :=
  node.children = []

/-- Sibling keys are distinct at every level of a schema that is assembled from leaves. -/
theorem allKeysDistinct_assemble (leaves : ∀ entry ∈ entries, entry.2.IsLeaf) :
    SchemaNode.AllKeysDistinct (assemble options entries) := by
  refine ⟨PathTree.siblingsDistinct_nodes options
    (PathTree.allGrown_foldl_insert leaves PathTree.allGrown_nil), ?_⟩
  apply everywhere_assemble options leaves
  · intro leaf isLeaf
    rw [isLeaf]
    nofun
  · intro branch grown
    obtain ⟨noneInside, childrenGrown⟩ := (PathTree.grown_iff branch).mp grown
    rcases PathTree.children_node options branch with ofLeaf | same | ⟨item, member, same⟩
    · have empty : (PathTree.node options branch).children = [] := by
        rw [List.eq_nil_iff_forall_not_mem]
        intro child childMember
        obtain ⟨leaf, isLeaf, ofChildren⟩ := ofLeaf child childMember
        rw [noneInside leaf isLeaf] at ofChildren
        cases ofChildren
      rw [empty]
      exact List.nodup_nil
    · rw [same]
      exact PathTree.siblingsDistinct_nodes options childrenGrown
    · rw [same]
      have itemGrown := (PathTree.grown_iff item).mp (childrenGrown.2 item member)
      exact PathTree.siblingsDistinct_nodes options itemGrown.2

/-- A leaf whose types have names that stand for them. -/
def SchemaNode.NamedLeaf (leaf : SchemaNode) : Prop :=
  leaf.IsLeaf ∧ leaf.info.TypesNamed

theorem SchemaNode.typesNamed_ofItems {info : FieldInfo} {item : Option SchemaNode}
    (named : ∀ leaf ∈ item, leaf.info.type.Named) (fields : List SchemaNode) :
    (ofItems options info item fields).info.TypesNamed := by
  have itemNamed : ((item.map fun leaf => leaf.info.type).getD FieldType.text).Named := by
    cases item with
    | none => decide
    | some leaf => exact named leaf rfl
  have objectNamed (isList : Bool) : (info.asObject isList).TypesNamed :=
    ⟨(by decide : FieldType.object.Named), nofun⟩
  rw [ofItems]
  split
  · exact objectNamed true
  · split
    · exact objectNamed true
    · split
      · exact objectNamed false
      · exact ⟨(by decide : FieldType.array.Named),
          fun type same => Option.some.inj same ▸ itemNamed⟩

theorem SchemaNode.typesNamed_normalize {node : SchemaNode} (named : node.info.TypesNamed) :
    node.normalize.info.TypesNamed := by
  rw [normalize]
  split
  · exact ⟨named.1, nofun⟩
  · refine ⟨named.1, fun type same => Option.some.inj same ▸ ?_⟩
    cases itemType : node.info.childType with
    | none => decide
    | some type => exact named.2 type itemType
  · exact ⟨named.1, nofun⟩

theorem PathTree.typesNamed_startInfo {branch : PathTree}
    (named : ∀ leaf ∈ branch.leaf, leaf.info.TypesNamed) :
    (branch.startInfo options).TypesNamed := by
  obtain ⟨key, _ | leaf, children⟩ := branch
  · exact ⟨(by decide : FieldType.object.Named), nofun⟩
  · exact named leaf rfl

/-- A schema that is assembled from leaves has only types that are named, if the leaves have. -/
theorem typesNamed_assemble (leaves : ∀ entry ∈ entries, entry.2.NamedLeaf) :
    ∀ node ∈ assemble options entries, node.TypesNamed := by
  apply everywhere_assemble options leaves
  · intro leaf namedLeaf
    rw [namedLeaf.1]
    nofun
  · intro branch grown
    obtain ⟨leafNamed, childrenGrown⟩ := (PathTree.grown_iff branch).mp grown
    have startNamed :=
      PathTree.typesNamed_startInfo options fun leaf isLeaf => (leafNamed leaf isLeaf).2
    rcases PathTree.node_cases options branch with ⟨item, member, same⟩ | ⟨_, same⟩ | same
    · have itemGrown := (PathTree.grown_iff item).mp (childrenGrown.2 item member)
      rw [same]
      exact SchemaNode.typesNamed_ofItems options
        (fun leaf isLeaf => (itemGrown.1 leaf isLeaf).2.1) _
    · rw [same]
      exact SchemaNode.typesNamed_normalize startNamed
    · rw [same]
      exact ⟨(by decide : FieldType.object.Named), nofun⟩

end

end Formwork
