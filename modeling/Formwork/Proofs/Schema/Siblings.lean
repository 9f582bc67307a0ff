/-
This file shows in which order siblings stand: at every level of a compiled schema in the order in
which the paths first name them.
-/

import Formwork.Proofs.Schema.Reached
import Mathlib.Data.List.Induction

namespace Formwork

namespace PathTree

/-- The branches that stand behind a beginning of segments. -/
def levelAt : List String → List PathTree → List PathTree
  | [], branches => branches
  | segment :: rest, branches =>
      levelAt rest (((branches.find? (·.key = segment)).map (·.children)).getD [])

/-- The segment that comes next after a beginning. -/
def nextAfter? : List String → List String → Option String
  | [], segments => segments.head?
  | _ :: _, [] => none
  | first :: rest, segment :: others => if first = segment then nextAfter? rest others else none

/-- The segment that comes next in a path after a beginning. An empty path has no segments. -/
def next? (beginning : List String) (path : String) : Option String :=
  if path.isEmpty then none else nextAfter? beginning (segments path)

/-- The branch after the rest of a path is planted from it. -/
def grow (leaf : SchemaNode) (rest : List String) (branch : PathTree) : PathTree :=
  if rest.isEmpty then { branch with leaf := some leaf }
  else { branch with children := plant leaf rest branch.children }

@[simp]
theorem key_grow (leaf : SchemaNode) (rest : List String) (branch : PathTree) :
    (grow leaf rest branch).key = branch.key := by
  rw [grow]
  split <;> rfl

@[simp]
theorem children_grow (leaf : SchemaNode) (rest : List String) (branch : PathTree) :
    (grow leaf rest branch).children = plant leaf rest branch.children := by
  cases rest <;> rfl

theorem plant_cons (leaf : SchemaNode) (segment : String) (rest : List String)
    (branches : List PathTree) :
    plant leaf (segment :: rest) branches = changeAt segment (grow leaf rest) branches := by
  cases rest <;> rfl

theorem levelAt_nil (beginning : List String) : levelAt beginning [] = [] := by
  induction beginning with
  | nil => rfl
  | cons segment rest inductionHypothesis => exact inductionHypothesis

theorem levelAt_append (beginning rest : List String) (branches : List PathTree) :
    levelAt (beginning ++ rest) branches = levelAt rest (levelAt beginning branches) := by
  induction beginning generalizing branches with
  | nil => rfl
  | cons segment others inductionHypothesis => exact inductionHypothesis _

/-- The level behind segments is what is below the branch that they lead to. -/
theorem levelAt_of_branchAt? {segments : List String} {branches : List PathTree}
    {branch : PathTree} (found : branchAt? segments branches = some branch) :
    levelAt segments branches = branch.children := by
  induction segments generalizing branches with
  | nil => cases found
  | cons segment rest inductionHypothesis =>
      cases rest with
      | nil =>
          rw [branchAt?] at found
          rw [levelAt, found]
          rfl
      | cons next rest =>
          obtain ⟨outer, outerFound, found⟩ := Option.bind_eq_some_iff.mp found
          rw [levelAt, outerFound]
          exact inductionHypothesis found

/-- Planting a leaf adds the segment of its path that comes next after a beginning, unless it stands
there already. -/
theorem keys_levelAt_plant (leaf : SchemaNode) (beginning segments : List String)
    (branches : List PathTree) :
    (levelAt beginning (plant leaf segments branches)).map (·.key) =
      (levelAt beginning branches).map (·.key) ++
        (nextAfter? beginning segments).toList.removeAll
          ((levelAt beginning branches).map (·.key)) := by
  induction beginning generalizing segments branches with
  | nil =>
      cases segments with
      | nil => simp [levelAt, plant, nextAfter?]
      | cons segment rest =>
          rw [levelAt, plant_cons, keys_changeAt (key_grow leaf rest), levelAt, nextAfter?,
            List.head?_cons, Option.toList_some, List.cons_removeAll, List.nil_removeAll]
          by_cases present : segment ∈ branches.map (·.key) <;> simp [present]
  | cons first others inductionHypothesis =>
      cases segments with
      | nil => simp [plant, nextAfter?]
      | cons segment rest =>
          rw [plant_cons, levelAt, find?_changeAt (key_grow leaf rest), levelAt, nextAfter?]
          by_cases here : first = segment
          · subst here
            have newEmpty (old : Option PathTree) : (old.getD { key := first }).children =
                (old.map (·.children)).getD [] := by cases old <;> rfl
            rw [if_pos rfl, if_pos rfl, Option.map_some, Option.getD_some, children_grow, newEmpty]
            exact inductionHypothesis rest _
          · rw [if_neg here, if_neg here]
            simp

theorem keys_levelAt_insert (beginning : List String) (path : String) (leaf : SchemaNode)
    (branches : List PathTree) :
    (levelAt beginning (insert branches path leaf)).map (·.key) =
      (levelAt beginning branches).map (·.key) ++
        (next? beginning path).toList.removeAll ((levelAt beginning branches).map (·.key)) := by
  rw [insert, next?]
  split
  · rw [Option.toList_none, List.nil_removeAll, List.append_nil]
  · exact keys_levelAt_plant leaf beginning (segments path) branches

/-- The branches that grow from entries. -/
def ofEntries (entries : Entries SchemaNode) : List PathTree :=
  entries.foldl (fun branches (path, leaf) => insert branches path leaf) []

theorem ofEntries_append (entries : Entries SchemaNode) (path : String) (leaf : SchemaNode) :
    ofEntries (entries ++ [(path, leaf)]) = insert (ofEntries entries) path leaf :=
  List.foldl_append

/-- Siblings stand in the order in which the paths first name them. -/
theorem keys_levelAt_ofEntries (beginning : List String) (entries : Entries SchemaNode) :
    (levelAt beginning (ofEntries entries)).map (·.key) =
      ((Entries.names entries).filterMap (next? beginning)).eraseDups := by
  induction entries using List.reverseRecOn with
  | nil =>
      rw [ofEntries, List.foldl_nil, levelAt_nil]
      rfl
  | append_singleton entries entry inductionHypothesis =>
      obtain ⟨path, leaf⟩ := entry
      have sameRest : (next? beginning path).toList.removeAll
            ((Entries.names entries).filterMap (next? beginning)).eraseDups =
          ((next? beginning path).toList.removeAll
            ((Entries.names entries).filterMap (next? beginning))).eraseDups := by
        cases next? beginning path with
        | none => rfl
        | some next =>
            simp only [Option.toList_some, List.cons_removeAll, List.nil_removeAll]
            simp only [List.contains_eq_mem, List.mem_eraseDups]
            split <;> rfl
      rw [ofEntries_append, keys_levelAt_insert, inductionHypothesis, sameRest,
        ← List.eraseDups_append, Entries.names, Entries.names, List.map_append,
        List.filterMap_append]
      rfl

/-- The fields inside the node of a branch are what stands behind the wildcard below the branch, if
the wildcard is there, else all that stands there. -/
theorem keys_children_node (options : CompileOptions) {branch : PathTree}
    (grown : Grown SchemaNode.IsLeaf branch) :
    (node options branch).children.map (·.key) =
      if options.wildcard ∈ branch.children.map (·.key) then
        (levelAt [options.wildcard] branch.children).map (·.key)
      else branch.children.map (·.key) := by
  cases isItem : branch.item? options with
  | some item =>
      have itemFound : branch.children.find? (·.key = options.wildcard) = some item := isItem
      have present : options.wildcard ∈ branch.children.map (·.key) :=
        List.mem_map.mpr ⟨item, List.mem_of_find?_eq_some itemFound,
          by simpa using List.find?_some itemFound⟩
      have reached : branchAt? [options.wildcard] branch.children = some item := isItem
      rw [if_pos present, children_node_of_item isItem, keys_nodes, levelAt_of_branchAt? reached]
  | none =>
      have absent : options.wildcard ∉ branch.children.map (·.key) := by
        intro present
        obtain ⟨item, member, isWildcard⟩ := List.mem_map.mp present
        have other := List.find?_eq_none.mp isItem item member
        exact other (by simpa using isWildcard)
      rw [if_neg absent]
      by_cases nothing : branch.children = []
      · rw [children_node_of_nothing nothing ((grown_iff branch).mp grown).1, nothing]
        rfl
      · rw [node_of_fields isItem nothing]
        exact keys_nodes options branch.children

end PathTree

namespace RuleSet

/-- The segments that come next after a beginning in the paths, in the order in which they first
do. -/
def nextSegments (rules : RuleSet) (beginning : List String) : List String :=
  (rules.entries.names.filterMap (PathTree.next? beginning)).eraseDups

/-- The fields that rules tell of, by their paths. -/
def leaves (options : CompileOptions) (rules : RuleSet) : Entries SchemaNode :=
  rules.entries.map fun (path, declaration) =>
    (path, .leaf (.ofRules options path declaration))

theorem names_leaves (options : CompileOptions) (rules : RuleSet) :
    (Entries.names (rules.leaves options)) = rules.entries.names := by
  rw [Entries.names, leaves, List.map_map]
  rfl

variable (options : CompileOptions) (rules : RuleSet)

theorem keys_levelAt_branches (beginning : List String) :
    (PathTree.levelAt beginning (rules.branches options)).map (·.key) =
      rules.nextSegments beginning := by
  rw [nextSegments, ← names_leaves options rules]
  exact PathTree.keys_levelAt_ofEntries beginning (rules.leaves options)

/-- The first segments of paths are the keys at the top. -/
theorem keys_compile : (rules.compile options).map (·.key) = rules.nextSegments [] := by
  rw [compile_eq, PathTree.keys_nodes]
  exact keys_levelAt_branches options rules []

/-- Inside a node stand the segments that come next after the beginning that leads to the node, or
after the wildcard that comes next. -/
theorem keys_children_of_occurs {route : List String} {node : SchemaNode}
    (occurs : SchemaNode.Occurs (rules.compile options) route node) :
    ∃ beginning, rules.Begins beginning ∧ keys? options.wildcard beginning = some route ∧
      SchemaNode.follow? options.wildcard beginning (rules.compile options) = some node ∧
      node.children.map (·.key) =
        if options.wildcard ∈ rules.nextSegments beginning then
          rules.nextSegments (beginning ++ [options.wildcard])
        else rules.nextSegments beginning := by
  obtain ⟨beginning, branch, begins, keys, follows, found, grown, rfl⟩ :=
    exists_branch_of_occurs options occurs
  refine ⟨beginning, begins, keys, follows, ?_⟩
  rw [PathTree.keys_children_node options grown, ← keys_levelAt_branches options,
    ← keys_levelAt_branches options, PathTree.levelAt_append, PathTree.levelAt_of_branchAt? found]

end RuleSet

end Formwork
