/-
This file tells which keys the nodes of a compiled schema have: those that a beginning of a path
ends in where a key is due. The wildcard is such a key at the start of a path and behind another
wildcard.
-/

import Formwork.Proofs.Schema.Siblings
import Formwork.Schema.Compile

namespace Formwork

namespace PathTree

/-- A path begins with the segments. -/
def Begins (paths : List String) (beginning : List String) : Prop :=
  ∃ path ∈ paths, path ≠ "" ∧ beginning <+: segments path

instance (paths : List String) : DecidablePred (Begins paths) :=
  fun _ => inferInstanceAs (Decidable (∃ path ∈ paths, _))

/-- A beginning of a path ends in the key where a key is due, and no wildcard shadows it. -/
def NamesField (wildcard : String) (paths : List String) (key : String) : Prop :=
  ∃ beginning, Begins paths beginning ∧ (keys? wildcard beginning).isSome ∧
    beginning.getLast? = some key ∧ Unshadowed wildcard (Begins paths) beginning

/-- A branch has the last of the segments that lead to it. -/
theorem key_of_branchAt? {segments : List String} {branches : List PathTree} {branch : PathTree}
    (found : branchAt? segments branches = some branch) :
    segments.getLast? = some branch.key := by
  induction segments generalizing branches with
  | nil => cases found
  | cons segment rest inductionHypothesis =>
      cases rest with
      | nil =>
          rw [branchAt?] at found
          have sameKey : branch.key = segment := by simpa using List.find?_some found
          rw [List.getLast?_singleton, sameKey]
      | cons next rest =>
          obtain ⟨outer, -, found⟩ := Option.bind_eq_some_iff.mp found
          rw [List.getLast?_cons_cons]
          exact inductionHypothesis found

end PathTree

namespace SchemaNode

/-- The node that segments lead to is one of the nodes. -/
theorem exists_occurs_of_follow? {wildcard : String} {segments : List String}
    {nodes : List SchemaNode} {node : SchemaNode}
    (found : follow? wildcard segments nodes = some node) : ∃ route, Occurs nodes route node := by
  induction segments using keys?.induct wildcard generalizing nodes with
  | case1 => cases found
  | case2 key => exact ⟨_, .here (List.mem_of_find?_eq_some found)⟩
  | case3 key rest inductionHypothesis =>
      obtain ⟨outer, outerFound, below⟩ := Option.bind_eq_some_iff.mp found
      rw [if_pos rfl] at below
      split at below
      · obtain ⟨route, occurs⟩ := inductionHypothesis below
        exact ⟨_, .inside (List.mem_of_find?_eq_some outerFound) occurs⟩
      · cases below
  | case4 key segment rest differ inductionHypothesis =>
      obtain ⟨outer, outerFound, below⟩ := Option.bind_eq_some_iff.mp found
      rw [if_neg differ] at below
      split at below
      · cases below
      · obtain ⟨route, occurs⟩ := inductionHypothesis below
        exact ⟨_, .inside (List.mem_of_find?_eq_some outerFound) occurs⟩

theorem holds_of_occurs {property : SchemaNode → Prop} {nodes : List SchemaNode}
    {route : List String} {node : SchemaNode} (occurs : Occurs nodes route node)
    (all : ∀ node ∈ nodes, node.Everywhere property) : property node := by
  induction occurs with
  | here member => exact ((everywhere_iff _).mp (all _ member)).1
  | inside member _ inductionHypothesis =>
      exact inductionHypothesis ((everywhere_iff _).mp (all _ member)).2

theorem everywhere_of_occurs {property : SchemaNode → Prop} {node : SchemaNode}
    (holds : property node)
    (inside : ∀ route other, Occurs node.children route other → property other) :
    node.Everywhere property := by
  induction node using SchemaNode.induction with
  | inside node inductionHypothesis =>
      rw [everywhere_iff]
      refine ⟨holds, fun child member => inductionHypothesis child member ?_ ?_⟩
      · exact inside _ child (.here member)
      · exact fun _ other below => inside _ other (.inside member below)

/-- What holds everywhere holds of all nodes that occur. -/
theorem forall_everywhere_iff {property : SchemaNode → Prop} {nodes : List SchemaNode} :
    (∀ node ∈ nodes, node.Everywhere property) ↔
      ∀ route node, Occurs nodes route node → property node := by
  constructor
  · exact fun all _ _ occurs => holds_of_occurs occurs all
  · intro all node member
    exact everywhere_of_occurs (all _ node (.here member))
      fun _ other below => all _ other (.inside member below)

/-- No node at any level has the key. -/
def AllLack (key : String) (nodes : List SchemaNode) : Prop :=
  ∀ node ∈ nodes, node.Everywhere (·.key ≠ key)

instance (key : String) (nodes : List SchemaNode) : Decidable (AllLack key nodes) :=
  inferInstanceAs (Decidable (∀ node ∈ nodes, _))

end SchemaNode

namespace PathTree

theorem isSome_branchAt?_iff_begins {beginning : List String} (nonempty : beginning ≠ [])
    (entries : Entries SchemaNode) :
    (branchAt? beginning (ofEntries entries)).isSome ↔ Begins (Entries.names entries) beginning := by
  rw [ofEntries, isSome_branchAt?_foldl_insert nonempty, branchAt?_nil]
  simp [Begins]

end PathTree

/-- The keys of an assembled schema are those that the paths name. -/
theorem exists_occurs_assemble_iff (options : CompileOptions) {entries : Entries SchemaNode}
    (leaves : ∀ entry ∈ entries, entry.2.IsLeaf) (key : String) :
    (∃ route node, SchemaNode.Occurs (assemble options entries) route node ∧ node.key = key) ↔
      PathTree.NamesField options.wildcard (Entries.names entries) key := by
  constructor
  · rintro ⟨route, node, occurs, rfl⟩
    have grown := PathTree.allGrown_foldl_insert leaves PathTree.allGrown_nil
    obtain ⟨beginning, branch, found, -, keys, unshadowed, rfl⟩ :=
      PathTree.exists_branchAt?_of_occurs grown rfl occurs
    have reached := Option.isSome_of_mem found
    refine ⟨beginning, ?_, Option.isSome_of_mem keys, ?_, ?_⟩
    · exact (PathTree.isSome_branchAt?_iff_begins (PathTree.ne_nil_of_branchAt? reached).1
        entries).mp reached
    · rw [PathTree.key_node]
      exact PathTree.key_of_branchAt? found
    · exact unshadowed.mono fun _ nonempty =>
        (PathTree.isSome_branchAt?_iff_begins nonempty entries).mpr
  · rintro ⟨beginning, begins, isKey, last, unshadowed⟩
    have nonempty : beginning ≠ [] := by
      rintro rfl
      cases isKey
    obtain ⟨branch, found⟩ := Option.isSome_iff_exists.mp
      ((PathTree.isSome_branchAt?_iff_begins nonempty entries).mpr begins)
    have follows := PathTree.follow?_nodes found isKey
      (unshadowed.mono fun _ more => (PathTree.isSome_branchAt?_iff_begins more entries).mp)
    obtain ⟨route, occurs⟩ := SchemaNode.exists_occurs_of_follow? follows
    refine ⟨route, _, occurs, ?_⟩
    rw [PathTree.key_node]
    exact Option.some.inj ((PathTree.key_of_branchAt? found).symm.trans last)

theorem allLack_assemble_iff (options : CompileOptions) {entries : Entries SchemaNode}
    (leaves : ∀ entry ∈ entries, entry.2.IsLeaf) (key : String) :
    SchemaNode.AllLack key (assemble options entries) ↔
      ¬PathTree.NamesField options.wildcard (Entries.names entries) key := by
  rw [← exists_occurs_assemble_iff options leaves, SchemaNode.AllLack,
    SchemaNode.forall_everywhere_iff]
  simp only [not_exists, not_and, ne_eq]

/-- A schema of rules lacks the keys that the paths do not name. -/
theorem RuleSet.allLack_compile_iff (options : CompileOptions) (rules : RuleSet) (key : String) :
    SchemaNode.AllLack key (rules.compile options) ↔
      ¬PathTree.NamesField options.wildcard rules.entries.names key := by
  have areLeaves : ∀ entry ∈ rules.leaves options, entry.2.IsLeaf := by
    rw [leaves, List.forall_mem_map]
    exact fun _ _ => rfl
  have lacks := allLack_assemble_iff options areLeaves key
  rwa [names_leaves] at lacks

/-- A schema of manual parameters lacks the keys that their paths do not name. -/
theorem allLack_compileManual_iff (options : CompileOptions) (parameters : List ManualParam)
    (key : String) :
    SchemaNode.AllLack key (compileManual options parameters) ↔
      ¬PathTree.NamesField options.wildcard (parameters.map (·.key)) key := by
  have leaves : ∀ entry ∈ parameters.map fun parameter => (parameter.key, parameter.leaf),
      entry.2.IsLeaf := by
    rw [List.forall_mem_map]
    exact fun _ _ => rfl
  have lacks := allLack_assemble_iff options leaves key
  rwa [Entries.names, List.map_map] at lacks

namespace PathTree

/-- The wildcard ends a beginning as a key if it is its only segment or comes behind another one. -/
theorem wildcard_due {wildcard : String} {beginning : List String}
    (isKey : (keys? wildcard beginning).isSome) (last : beginning.getLast? = some wildcard) :
    beginning = [wildcard] ∨ [wildcard, wildcard] <:+ beginning := by
  induction beginning using keys?.induct wildcard with
  | case1 => cases isKey
  | case2 key => exact .inl (congrArg (fun segment => [segment]) (Option.some.inj last))
  | case3 key rest inductionHypothesis =>
      have restKey : (keys? wildcard rest).isSome := by simpa [keys?] using isKey
      have more : rest ≠ [] := by
        rintro rfl
        cases restKey
      rw [List.getLast?_cons_cons, List.getLast?_cons_of_ne_nil more] at last
      rcases inductionHypothesis restKey last with rfl | behind
      · exact .inr (List.suffix_cons key _)
      · exact .inr ((behind.trans (List.suffix_cons wildcard rest)).trans (List.suffix_cons key _))
  | case4 key segment rest differ inductionHypothesis =>
      have restKey : (keys? wildcard (segment :: rest)).isSome := by
        simpa [keys?, differ] using isKey
      rw [List.getLast?_cons_cons] at last
      rcases inductionHypothesis restKey last with isWildcard | behind
      · exact absurd (List.cons.inj isWildcard).1 differ
      · exact .inr (behind.trans (List.suffix_cons key _))

/-- Paths name the wildcard only if one starts with it or has it twice in a row. -/
theorem not_namesField_wildcard {wildcard : String} {paths : List String}
    (apart : ∀ path ∈ paths, path ≠ "" →
      (segments path).head? ≠ some wildcard ∧ ¬[wildcard, wildcard] <:+: segments path) :
    ¬NamesField wildcard paths wildcard := by
  rintro ⟨beginning, ⟨path, member, named, begins⟩, isKey, last, -⟩
  obtain ⟨notFirst, notTwice⟩ := apart path member named
  rcases wildcard_due isKey last with rfl | behind
  · obtain ⟨rest, areSegments⟩ := begins
    rw [← areSegments] at notFirst
    exact notFirst rfl
  · exact notTwice (behind.isInfix.trans begins.isInfix)

end PathTree

end Formwork
