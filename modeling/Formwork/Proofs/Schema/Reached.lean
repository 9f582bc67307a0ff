/-
This file shows that the paths of a rule set lead to the nodes of its schema: each path to the node
with what its rules say, and no node is there that a path does not lead to.
-/

import Formwork.Proofs.Schema.Branch
import Formwork.Proofs.Schema.Compiled

namespace Formwork

/-- The keys among the segments of a path that ends in a key. The first segment is a key, after a key
the wildcard is a marker, and after a marker comes a key. -/
def keys? (wildcard : String) : List String → Option (List String)
  | [] => none
  | [key] => some [key]
  | key :: segment :: rest =>
      if segment = wildcard then (keys? wildcard rest).map (key :: ·)
      else (keys? wildcard (segment :: rest)).map (key :: ·)

/-- After no key does another segment come where the wildcard is taken. -/
def Unshadowed (wildcard : String) (taken : List String → Prop) (segments : List String) : Prop :=
  ∀ (index : Nat) (inside : index < segments.length),
    (keys? wildcard (segments.take index)).isSome → segments[index] ≠ wildcard →
      ¬taken (segments.take index ++ [wildcard])

instance (wildcard : String) (taken : List String → Prop) [DecidablePred taken]
    (segments : List String) : Decidable (Unshadowed wildcard taken segments) :=
  inferInstanceAs (Decidable (∀ (index : Nat) (_ : index < segments.length), _))

namespace Unshadowed

variable {wildcard key segment : String} {rest : List String} {taken : List String → Prop}

theorem afterMarker (unshadowed : Unshadowed wildcard taken (key :: wildcard :: rest)) :
    Unshadowed wildcard (fun beginning => taken (key :: wildcard :: beginning)) rest := by
  intro index inside isKey differ
  refine unshadowed (index + 2) (by simpa using inside) ?_ (by simpa using differ)
  simpa [keys?] using isKey

theorem afterKey (unshadowed : Unshadowed wildcard taken (key :: segment :: rest))
    (differ : segment ≠ wildcard) :
    Unshadowed wildcard (fun beginning => taken (key :: beginning)) (segment :: rest) := by
  intro index inside isKey indexDiffer
  refine unshadowed (index + 1) (by simpa using inside) ?_ (by simpa using indexDiffer)
  cases index with
  | zero => rfl
  | succ index => simpa [keys?, differ] using isKey

theorem notTaken (unshadowed : Unshadowed wildcard taken (key :: segment :: rest))
    (differ : segment ≠ wildcard) : ¬taken [key, wildcard] :=
  unshadowed 1 (by simp) rfl differ

theorem mono {other : List String → Prop} {segments : List String}
    (unshadowed : Unshadowed wildcard taken segments)
    (fewer : ∀ beginning, beginning ≠ [] → other beginning → taken beginning) :
    Unshadowed wildcard other segments :=
  fun index inside isKey differ isTaken =>
    unshadowed index inside isKey differ (fewer _ (by simp) isTaken)

theorem singleton (wildcard key : String) (taken : List String → Prop) :
    Unshadowed wildcard taken [key] := by
  intro index inside isKey
  have isFirst : index = 0 := by simpa using inside
  subst isFirst
  cases isKey

theorem ofMarker (unshadowed :
      Unshadowed wildcard (fun beginning => taken (key :: wildcard :: beginning)) rest) :
    Unshadowed wildcard taken (key :: wildcard :: rest) := by
  intro index inside isKey differ
  match index with
  | 0 => cases isKey
  | 1 => exact absurd rfl differ
  | index + 2 =>
      have restKey : (keys? wildcard (rest.take index)).isSome := by simpa [keys?] using isKey
      exact unshadowed index (by simpa using inside) restKey (by simpa using differ)

theorem ofKey (differ : segment ≠ wildcard) (free : ¬taken [key, wildcard])
    (unshadowed : Unshadowed wildcard (fun beginning => taken (key :: beginning)) (segment :: rest)) :
    Unshadowed wildcard taken (key :: segment :: rest) := by
  intro index inside isKey indexDiffer
  match index with
  | 0 => cases isKey
  | 1 => exact free
  | index + 2 =>
      have restKey : (keys? wildcard ((segment :: rest).take (index + 1))).isSome := by
        simpa [keys?, differ] using isKey
      exact unshadowed (index + 1) (by simpa using inside) restKey (by simpa using indexDiffer)

end Unshadowed

namespace SchemaNode

/-- The node that the segments of a path lead to. A marker steps into the items of a list, and
nothing else does. -/
def follow? (wildcard : String) : List String → List SchemaNode → Option SchemaNode
  | [], _ => none
  | [key], nodes => nodes.find? (·.key == key)
  | key :: segment :: rest, nodes =>
      (nodes.find? (·.key == key)).bind fun node =>
        if segment = wildcard then
          if node.info.isList then follow? wildcard rest node.children else none
        else if node.info.isList then none
        else follow? wildcard (segment :: rest) node.children

/-- The node is among the nodes or inside them, under the keys of a route. -/
inductive Occurs : List SchemaNode → List String → SchemaNode → Prop where
  | here {nodes : List SchemaNode} {node : SchemaNode} (member : node ∈ nodes) :
      Occurs nodes [node.key] node
  | inside {nodes : List SchemaNode} {parent node : SchemaNode} {route : List String}
      (member : parent ∈ nodes) (below : Occurs parent.children route node) :
      Occurs nodes (parent.key :: route) node

theorem not_occurs_nil {route : List String} {node : SchemaNode} : ¬Occurs [] route node := by
  intro occurs
  cases occurs with
  | here member => cases member
  | inside member _ => cases member

end SchemaNode

namespace PathTree

variable (options : CompileOptions)

/-- The branch of the wildcard below a branch. -/
def item? (branch : PathTree) : Option PathTree :=
  branch.children.find? (·.key = options.wildcard)

variable {options} {branch item : PathTree}

theorem node_of_item (found : branch.item? options = some item) :
    node options branch =
      .ofItems options (branch.startInfo options) item.leaf (nodes options item.children) := by
  obtain ⟨key, leaf, children⟩ := branch
  have isItem : children.find? (·.key = options.wildcard) = some item := found
  rw [node, wildcardPart_eq_map, isItem]
  rfl

theorem node_of_fields (noItem : branch.item? options = none) (some : branch.children ≠ []) :
    node options branch =
      ⟨(branch.startInfo options).asObject false, nodes options branch.children⟩ := by
  obtain ⟨key, leaf, children⟩ := branch
  have isNone : children.find? (·.key = options.wildcard) = none := noItem
  have isSome : ¬children.isEmpty := by simpa using some
  rw [node, wildcardPart_eq_map, isNone]
  simp only [Option.map_none, isSome]
  rfl

theorem node_of_nothing (none : branch.children = []) :
    node options branch = .normalize ⟨branch.startInfo options, branch.start.schema⟩ := by
  obtain ⟨key, leaf, children⟩ := branch
  obtain rfl : children = [] := none
  rfl

theorem isList_node_of_item (found : branch.item? options = some item) (some : item.children ≠ []) :
    (node options branch).info.isList = true := by
  have fields : nodes options item.children ≠ [] := by simpa [nodes_eq_map] using some
  rw [node_of_item found, SchemaNode.ofItems]
  simp [fields, FieldInfo.asObject]

theorem children_node_of_item (found : branch.item? options = some item) :
    (node options branch).children = nodes options item.children := by
  rw [node_of_item found, SchemaNode.children_ofItems]

theorem find?_nodes (key : String) (branches : List PathTree) :
    (nodes options branches).find? (·.key == key) =
      (branches.find? (·.key = key)).map (node options) := by
  rw [nodes_eq_map, List.find?_map]
  congr 2
  funext branch
  rw [Function.comp_apply, key_node]
  rfl

/-- Segments lead to the node of the branch that they lead to, if no wildcard shadows them. -/
theorem follow?_nodes {segments : List String} {branches : List PathTree} {reached : PathTree}
    (found : branchAt? segments branches = some reached)
    (isKey : (keys? options.wildcard segments).isSome)
    (unshadowed :
      Unshadowed options.wildcard (fun beginning => (branchAt? beginning branches).isSome)
        segments) :
    SchemaNode.follow? options.wildcard segments (nodes options branches) =
      some (node options reached) := by
  -- the cases are those in which segments are read as keys and markers
  induction segments using keys?.induct options.wildcard generalizing branches with
  | case1 => cases found
  | case2 key =>
      rw [SchemaNode.follow?, find?_nodes]
      rw [branchAt?] at found
      rw [found, Option.map_some]
  | case3 key rest inductionHypothesis =>
      have restKey : (keys? options.wildcard rest).isSome := by simpa [keys?] using isKey
      have more : rest ≠ [] := by
        rintro rfl
        cases restKey
      rw [branchAt?] at found
      obtain ⟨outer, outerFound, found⟩ := Option.bind_eq_some_iff.mp found
      rw [branchAt?_cons _ more] at found
      obtain ⟨item, itemFound, found⟩ := Option.bind_eq_some_iff.mp found
      have isItem : outer.item? options = some item := itemFound
      have below : item.children ≠ [] := (ne_nil_of_branchAt? (Option.isSome_of_mem found)).2
      rw [SchemaNode.follow?, find?_nodes, outerFound, Option.map_some, Option.bind_some,
        if_pos rfl, if_pos (isList_node_of_item isItem below), children_node_of_item isItem]
      refine inductionHypothesis found restKey (unshadowed.afterMarker.mono ?_)
      intro beginning nonempty taken
      rwa [branchAt?_cons_of_find? (List.cons_ne_nil _ _) outerFound,
        branchAt?_cons_of_find? nonempty itemFound]
  | case4 key segment rest differ inductionHypothesis =>
      have nextKey : (keys? options.wildcard (segment :: rest)).isSome := by
        simpa [keys?, differ] using isKey
      rw [branchAt?] at found
      obtain ⟨outer, outerFound, found⟩ := Option.bind_eq_some_iff.mp found
      have below : outer.children ≠ [] := (ne_nil_of_branchAt? (Option.isSome_of_mem found)).2
      have noItem : outer.item? options = none := by
        have free := unshadowed.notTaken differ
        rw [branchAt?_cons_of_find? (List.cons_ne_nil _ _) outerFound] at free
        exact Option.not_isSome_iff_eq_none.mp free
      rw [SchemaNode.follow?, find?_nodes, outerFound, Option.map_some, Option.bind_some,
        if_neg differ, node_of_fields noItem below]
      refine inductionHypothesis found nextKey ((unshadowed.afterKey differ).mono ?_)
      intro beginning nonempty taken
      rwa [branchAt?_cons_of_find? nonempty outerFound]

theorem children_node_of_nothing (none : branch.children = [])
    (leafEmpty : ∀ leaf ∈ branch.leaf, leaf.IsLeaf) : (node options branch).children = [] := by
  rw [node_of_nothing none, SchemaNode.children_normalize]
  obtain ⟨key, _ | leaf, children⟩ := branch
  · exact ite_self _
  · have noneInside : SchemaNode.children ⟨startInfo options ⟨key, some leaf, children⟩,
        leaf.schema⟩ = [] := leafEmpty leaf rfl
    split
    · exact noneInside
    · rfl

/-- Every node of branches is the node of a branch, to which segments lead under the route of the node
and that no wildcard shadows. -/
theorem exists_branchAt?_of_occurs {branches : List PathTree} {nodes : List SchemaNode}
    {route : List String} {reached : SchemaNode} (grown : AllGrown SchemaNode.IsLeaf branches)
    (areNodes : nodes = PathTree.nodes options branches)
    (occurs : SchemaNode.Occurs nodes route reached) :
    ∃ segments branch, branchAt? segments branches = some branch ∧
      Grown SchemaNode.IsLeaf branch ∧ keys? options.wildcard segments = some route ∧
      Unshadowed options.wildcard (fun beginning => (branchAt? beginning branches).isSome)
        segments ∧
      reached = node options branch := by
  induction occurs generalizing branches with
  | @here nodes reached member =>
      subst areNodes
      rw [nodes_eq_map] at member
      obtain ⟨branch, branchMember, rfl⟩ := List.mem_map.mp member
      have found : branches.find? (·.key = branch.key) = some branch :=
        find?_name_of_mem grown.1 branchMember
      exact ⟨[branch.key], branch, found, grown.2 branch branchMember, by rw [key_node]; rfl,
        .singleton _ _ _, rfl⟩
  | @inside nodes parent reached route member below inductionHypothesis =>
      subst areNodes
      rw [nodes_eq_map] at member
      obtain ⟨branch, branchMember, rfl⟩ := List.mem_map.mp member
      have found : branches.find? (·.key = branch.key) = some branch :=
        find?_name_of_mem grown.1 branchMember
      obtain ⟨leafEmpty, childrenGrown⟩ := (grown_iff branch).mp (grown.2 branch branchMember)
      cases isItem : branch.item? options with
      | some item =>
          have itemMember : item ∈ branch.children := List.mem_of_find?_eq_some isItem
          have itemGrown := ((grown_iff item).mp (childrenGrown.2 item itemMember)).2
          obtain ⟨segments, inner, innerFound, innerGrown, keys, unshadowed, isNode⟩ :=
            inductionHypothesis itemGrown (children_node_of_item isItem)
          have nonempty := (ne_nil_of_branchAt? (Option.isSome_of_mem innerFound)).1
          refine ⟨branch.key :: options.wildcard :: segments, inner, ?_, innerGrown, ?_,
            .ofMarker (unshadowed.mono ?_), isNode⟩
          · rwa [branchAt?_cons_of_find? (List.cons_ne_nil _ _) found,
              branchAt?_cons_of_find? nonempty isItem]
          · rw [keys?, if_pos rfl, keys, key_node]
            rfl
          · intro beginning more taken
            rwa [branchAt?_cons_of_find? (List.cons_ne_nil _ _) found,
              branchAt?_cons_of_find? more isItem] at taken
      | none =>
          by_cases nothing : branch.children = []
          · rw [children_node_of_nothing nothing leafEmpty] at below
            exact absurd below SchemaNode.not_occurs_nil
          · obtain ⟨segments, inner, innerFound, innerGrown, keys, unshadowed, isNode⟩ :=
              inductionHypothesis childrenGrown (by rw [node_of_fields isItem nothing]; rfl)
            obtain ⟨segment, rest, rfl⟩ := List.exists_cons_of_ne_nil
              (ne_nil_of_branchAt? (Option.isSome_of_mem innerFound)).1
            have noItem : ¬(branchAt? [options.wildcard] branch.children).isSome :=
              Option.not_isSome_iff_eq_none.mpr isItem
            have differ : segment ≠ options.wildcard := by
              rintro rfl
              exact noItem (isSome_find?_of_branchAt? (Option.isSome_of_mem innerFound))
            refine ⟨branch.key :: segment :: rest, inner, ?_, innerGrown, ?_,
              .ofKey differ ?_ (unshadowed.mono ?_), isNode⟩
            · rwa [branchAt?_cons_of_find? (List.cons_ne_nil _ _) found]
            · rw [keys?, if_neg differ, keys, key_node]
              rfl
            · rwa [branchAt?_cons_of_find? (List.cons_ne_nil _ _) found]
            · intro beginning more taken
              rwa [branchAt?_cons_of_find? more found] at taken

end PathTree

/-- A field is told the same by its rules, whatever is inside it. -/
structure FieldInfo.SameRules (info declared : FieldInfo) : Prop where
  constraints : info.toConstraints = declared.toConstraints
  rules : info.rules = declared.rules

namespace SchemaNode

theorem sameRules_ofItems (options : CompileOptions) (info : FieldInfo) (item : Option SchemaNode)
    (fields : List SchemaNode) : (ofItems options info item fields).info.SameRules info := by
  rw [ofItems]
  repeat' split
  all_goals exact ⟨rfl, rfl⟩

theorem sameRules_normalize (node : SchemaNode) : node.normalize.info.SameRules node.info := by
  rw [normalize]
  split
  all_goals exact ⟨rfl, rfl⟩

end SchemaNode

namespace PathTree

/-- What the rules at the leaf of a branch say holds of its node. -/
theorem sameRules_node (options : CompileOptions) (branch : PathTree) :
    (node options branch).info.SameRules branch.start.info := by
  have startRules : (branch.startInfo options).SameRules branch.start.info := ⟨rfl, rfl⟩
  have viaStart {info : FieldInfo} (same : info.SameRules (branch.startInfo options)) :
      info.SameRules branch.start.info :=
    ⟨same.constraints.trans startRules.constraints, same.rules.trans startRules.rules⟩
  rcases node_cases options branch with ⟨item, _, same⟩ | ⟨_, same⟩ | same
  · rw [same]
    exact viaStart (SchemaNode.sameRules_ofItems options _ _ _)
  · rw [same]
    exact viaStart (SchemaNode.sameRules_normalize _)
  · rw [same]
    exact viaStart ⟨rfl, rfl⟩

end PathTree

namespace RuleSet

variable (options : CompileOptions) (rules : RuleSet)

/-- The branches that the rules grow. -/
def branches : List PathTree :=
  (rules.entries.map fun (path, declaration) =>
    (path, SchemaNode.leaf (.ofRules options path declaration))).foldl
      (fun branches (path, leaf) => PathTree.insert branches path leaf) []

theorem compile_eq : rules.compile options = PathTree.nodes options (rules.branches options) := rfl

/-- A path of the rules begins with the segments. -/
def Begins (beginning : List String) : Prop :=
  ∃ path ∈ rules.entries.names, path ≠ "" ∧ beginning <+: PathTree.segments path

instance : DecidablePred rules.Begins :=
  fun _ => inferInstanceAs (Decidable (∃ path ∈ rules.entries.names, _))

/-- Branches are where paths begin. -/
theorem isSome_branchAt?_branches {segments : List String} (some : segments ≠ []) :
    (PathTree.branchAt? segments (rules.branches options)).isSome ↔ rules.Begins segments := by
  have sameNames : Entries.names (rules.entries.map fun (path, declaration) =>
      (path, SchemaNode.leaf (.ofRules options path declaration))) = rules.entries.names := by
    rw [Entries.names, List.map_map]
    rfl
  rw [branches, PathTree.isSome_branchAt?_foldl_insert some, PathTree.branchAt?_nil, sameNames]
  simp [Begins]

variable {rules}

/-- The rules of a path are at its branch. -/
theorem exists_branchAt?_of_get? {path : String} {declaration : Declaration}
    (declared : rules.get? path = some declaration) (named : path ≠ "") :
    ∃ branch, PathTree.branchAt? (PathTree.segments path) (rules.branches options) = some branch ∧
      branch.leaf = some (.leaf (.ofRules options path declaration)) := by
  have member : (path, declaration) ∈ rules.entries := Entries.mem_of_find? declared
  apply Option.map_eq_some_iff.mp
  apply PathTree.leaf_branchAt?_foldl_insert named
  · rw [List.forall_mem_map]
    rintro ⟨other, otherDeclaration⟩ otherMember rfl
    have same := (Entries.find?_of_mem rules.distinct otherMember).symm.trans declared
    rw [Option.some.inj same]
  · exact .inl (List.mem_map.mpr ⟨(path, declaration), member, rfl⟩)

/-- Nothing is below the branch of a path that no other path extends. -/
theorem children_eq_nil_of_get? {path : String} {branch : PathTree}
    (found : PathTree.branchAt? (PathTree.segments path) (rules.branches options) = some branch)
    (last : ∀ other ∈ rules.entries.names,
      PathTree.segments path <+: PathTree.segments other → other = path) :
    branch.children = [] := by
  apply PathTree.children_eq_nil_of_branchAt? found
  intro next
  rw [← Option.not_isSome_iff_eq_none, isSome_branchAt?_branches options rules (by simp)]
  rintro ⟨other, member, _, begins⟩
  have isPath : other = path := last other member ((List.prefix_append _ _).trans begins)
  have longer := begins.length_le
  rw [isPath, List.length_append, List.length_singleton] at longer
  omega

/-- A path leads to a node with what its rules say. -/
theorem exists_follow?_of_get? {path : String} {declaration : Declaration}
    (declared : rules.get? path = some declaration) (named : path ≠ "")
    (isKey : (keys? options.wildcard (PathTree.segments path)).isSome)
    (unshadowed : Unshadowed options.wildcard rules.Begins (PathTree.segments path)) :
    ∃ node, SchemaNode.follow? options.wildcard (PathTree.segments path)
        (rules.compile options) = some node ∧
      node.info.SameRules (.ofRules options path declaration) ∧
      ((∀ other ∈ rules.entries.names,
          PathTree.segments path <+: PathTree.segments other → other = path) →
        node.info.type = (FieldInfo.ofRules options path declaration).type ∧
        node.info.options = (FieldInfo.ofRules options path declaration).options) := by
  obtain ⟨branch, found, isLeaf⟩ := exists_branchAt?_of_get? options declared named
  have isStart : branch.start = .leaf (.ofRules options path declaration) := by
    rw [PathTree.start, isLeaf, Option.getD_some]
  have free : Unshadowed options.wildcard
      (fun beginning => (PathTree.branchAt? beginning (rules.branches options)).isSome)
      (PathTree.segments path) := by
    exact unshadowed.mono fun _ nonempty =>
      (isSome_branchAt?_branches options rules nonempty).mp
  refine ⟨PathTree.node options branch, PathTree.follow?_nodes found isKey free, ?_, ?_⟩
  · have sameRules := PathTree.sameRules_node options branch
    rwa [isStart] at sameRules
  · intro last
    have nothing := children_eq_nil_of_get? options found last
    have same := SchemaNode.type_normalize ⟨branch.startInfo options, branch.start.schema⟩
    rw [← PathTree.node_of_nothing nothing] at same
    rw [same.1, same.2, PathTree.startInfo, isStart]
    exact ⟨rfl, rfl⟩

/-- The branches of rules have leaves without fields inside them. -/
theorem allGrown_branches (rules : RuleSet) :
    PathTree.AllGrown SchemaNode.IsLeaf (rules.branches options) := by
  apply PathTree.allGrown_foldl_insert _ PathTree.allGrown_nil
  rw [List.forall_mem_map]
  exact fun _ _ => rfl

/-- Every node is that of a branch, and is led to by the beginning of a path. -/
theorem exists_branch_of_occurs {route : List String} {node : SchemaNode}
    (occurs : SchemaNode.Occurs (rules.compile options) route node) :
    ∃ beginning branch, rules.Begins beginning ∧ keys? options.wildcard beginning = some route ∧
      SchemaNode.follow? options.wildcard beginning (rules.compile options) = some node ∧
      PathTree.branchAt? beginning (rules.branches options) = some branch ∧
      PathTree.Grown SchemaNode.IsLeaf branch ∧ node = PathTree.node options branch := by
  obtain ⟨beginning, branch, found, grown, keys, unshadowed, rfl⟩ :=
    PathTree.exists_branchAt?_of_occurs (allGrown_branches options rules)
      (compile_eq options rules) occurs
  have reaches := Option.isSome_of_mem found
  refine ⟨beginning, branch, ?_, keys,
    PathTree.follow?_nodes found (Option.isSome_of_mem keys) unshadowed, found, grown, rfl⟩
  exact (isSome_branchAt?_branches options rules (PathTree.ne_nil_of_branchAt? reaches).1).mp
    reaches

/-- Every node is led to by the beginning of a path. -/
theorem exists_begins_of_occurs {route : List String} {node : SchemaNode}
    (occurs : SchemaNode.Occurs (rules.compile options) route node) :
    ∃ beginning, rules.Begins beginning ∧ keys? options.wildcard beginning = some route ∧
      SchemaNode.follow? options.wildcard beginning (rules.compile options) = some node := by
  obtain ⟨beginning, branch, begins, keys, follows, -⟩ := exists_branch_of_occurs options occurs
  exact ⟨beginning, begins, keys, follows⟩

/-- No field is lost and none is invented: a path that ends in a key, and that no wildcard shadows,
leads to a node with what its rules say, and with their type and choices if no other path extends it.
Every node is led to by the beginning of a path. -/
theorem compile_follows_paths (options : CompileOptions) (rules : RuleSet) :
    (∀ path declaration, rules.get? path = some declaration → path ≠ "" →
      (keys? options.wildcard (PathTree.segments path)).isSome →
      Unshadowed options.wildcard rules.Begins (PathTree.segments path) →
        ∃ node, SchemaNode.follow? options.wildcard (PathTree.segments path)
            (rules.compile options) = some node ∧
          node.info.SameRules (.ofRules options path declaration) ∧
          ((∀ other ∈ rules.entries.names,
              PathTree.segments path <+: PathTree.segments other → other = path) →
            node.info.type = (FieldInfo.ofRules options path declaration).type ∧
            node.info.options = (FieldInfo.ofRules options path declaration).options)) ∧
    ∀ route node, SchemaNode.Occurs (rules.compile options) route node →
      ∃ beginning, rules.Begins beginning ∧ keys? options.wildcard beginning = some route ∧
        SchemaNode.follow? options.wildcard beginning (rules.compile options) = some node :=
  ⟨fun _ _ declared named isKey unshadowed =>
      exists_follow?_of_get? options declared named isKey unshadowed,
    fun _ _ occurs => exists_begins_of_occurs options occurs⟩

/-- The rules of an order: its fields come in any order, the items are a list of objects, and the
wildcard shadows the item of a fixed place. -/
def orderRules : RuleSet :=
  .ofList
    [("order", .text "required|array"), ("order.items.0", .text "integer"),
      ("order.items.*.sku", .list [.text "required", .text "in:A1,B2"]),
      ("order.items.*.*.tags.*", .text "string"), ("order.items.*.price", .text "numeric|min:0"),
      ("order.items", .text "array|min:1")]

/-- The article number of an item is a required choice, the item of a fixed place is shadowed, and
the items are where the paths of the items begin. -/
theorem compile_follows_paths_order :
    (∃ node, SchemaNode.follow? "*" (PathTree.segments "order.items.*.sku")
          (orderRules.compile {}) = some node ∧ node.info.required = true ∧
        node.info.type = .select ∧ node.info.options = some [.str "A1", .str "B2"]) ∧
      ¬Unshadowed "*" orderRules.Begins (PathTree.segments "order.items.0") ∧
      ∃ order items, order ∈ orderRules.compile {} ∧ items ∈ order.children ∧
        ∃ beginning, orderRules.Begins beginning ∧
          keys? "*" beginning = some ["order", "items"] ∧
          SchemaNode.follow? "*" beginning (orderRules.compile {}) = some items := by
  have rulesFollow := compile_follows_paths {} orderRules
  refine ⟨?_, by decide +kernel, ?_⟩
  · obtain ⟨node, follows, sameRules, sameType⟩ :=
      rulesFollow.1 "order.items.*.sku" (.list [.text "required", .text "in:A1,B2"]) rfl
        (by decide) (by decide) (by decide +kernel)
    obtain ⟨isSelect, hasChoices⟩ := sameType (by decide +kernel)
    have isRequired : node.info.toConstraints.required = true := by
      rw [sameRules.constraints]
      decide +kernel
    refine ⟨node, follows, isRequired, isSelect.trans (by decide +kernel), ?_⟩
    exact hasChoices.trans (by decide +kernel)
  · let order := (orderRules.compile {}).headD default
    let items := order.children.headD default
    have orderMember : order ∈ orderRules.compile {} := by decide +kernel
    have itemsMember : items ∈ order.children := by decide +kernel
    obtain ⟨beginning, begins, keys, follows⟩ :=
      rulesFollow.2 _ items (.inside orderMember (.here itemsMember))
    refine ⟨order, items, orderMember, itemsMember, beginning, begins, keys.trans ?_, follows⟩
    decide +kernel

end RuleSet

end Formwork
