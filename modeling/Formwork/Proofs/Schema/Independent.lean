/-
This file shows that the fields at the top of a rule set compile independently: the schema is the
concatenation of the schemas of the rules under each first segment.
-/

import Formwork.Proofs.Schema.Siblings

namespace Formwork

/-- Only one value has the name of a value, if names are distinct. -/
theorem filter_name_of_mem {Value : Type} {name : Value → String} {values : List Value}
    {value : Value} (distinct : (values.map name).Nodup) (member : value ∈ values) :
    values.filter (name · == name value) = [value] := by
  induction values with
  | nil => cases member
  | cons first rest inductionHypothesis =>
      rw [List.map_cons, List.nodup_cons] at distinct
      rcases List.mem_cons.mp member with isFirst | later
      · subst isFirst
        have noOther : rest.filter (name · == name value) = [] := by
          rw [List.filter_eq_nil_iff]
          intro other otherMember same
          exact distinct.1 (List.mem_map.mpr ⟨other, otherMember, eq_of_beq same⟩)
        rw [List.filter_cons_of_pos (by simp), noOther]
      · have differ : name first ≠ name value :=
          fun equal => distinct.1 (List.mem_map.mpr ⟨value, later, equal.symm⟩)
        rw [List.filter_cons_of_neg (by simpa using differ)]
        exact inductionHypothesis distinct.2 later

/-- Values of distinct names are the concatenation of those of each name. -/
theorem eq_flatMap_filter_name {Value : Type} {name : Value → String} {values : List Value}
    (distinct : (values.map name).Nodup) :
    values = (values.map name).flatMap fun key => values.filter (name · == key) := by
  have each : values.map (fun value => values.filter (name · == name value)) =
      values.map fun value => [value] :=
    List.map_congr_left fun value member => filter_name_of_mem distinct member
  rw [List.flatMap_map, List.flatMap_def, each, ← List.flatMap_def, List.flatMap_singleton']

/-- A value that is put under another name is not among those whose names are chosen. -/
theorem Entries.filter_put {Value : Type} {chosen : String → Bool} {name : String}
    (other : chosen name = false) (value : Value) (entries : Entries Value) :
    (entries.put name value).filter (fun entry => chosen entry.1) =
      entries.filter fun entry => chosen entry.1 := by
  induction entries with
  | nil => simp [put, other]
  | cons entry rest inductionHypothesis =>
      obtain ⟨first, old⟩ := entry
      rw [put]
      split
      · rename_i same
        subst same
        simp [other]
      · rw [List.filter_cons, List.filter_cons, inductionHypothesis]

namespace PathTree

variable (chosen : String → Bool)

/-- A change at a segment is not seen among the branches of other segments. -/
theorem filter_changeAt {segment : String} {change : PathTree → PathTree}
    (sameKey : ∀ branch, (change branch).key = branch.key) (branches : List PathTree) :
    (changeAt segment change branches).filter (chosen ·.key) =
      if chosen segment then changeAt segment change (branches.filter (chosen ·.key))
      else branches.filter (chosen ·.key) := by
  induction branches with
  | nil => cases isChosen : chosen segment <;> simp [changeAt, sameKey, isChosen]
  | cons branch rest inductionHypothesis =>
      rw [changeAt]
      by_cases here : branch.key = segment
      · cases isChosen : chosen segment <;> simp [changeAt, sameKey, here, isChosen]
      · rw [if_neg here, List.filter_cons, inductionHypothesis, List.filter_cons]
        cases isChosen : chosen segment <;> cases chosen branch.key <;> simp [changeAt, here]

/-- The first segment of a path is chosen. An empty path has none. -/
def StartChosen (path : String) : Bool :=
  (next? [] path).any chosen

theorem filter_insert (branches : List PathTree) (path : String) (leaf : SchemaNode) :
    (insert branches path leaf).filter (chosen ·.key) =
      if StartChosen chosen path then insert (branches.filter (chosen ·.key)) path leaf
      else branches.filter (chosen ·.key) := by
  rw [StartChosen, next?, insert, insert]
  split
  · rfl
  · obtain ⟨segment, rest, areSegments⟩ := List.exists_cons_of_ne_nil (segments_ne_nil path)
    rw [areSegments, plant_cons, filter_changeAt chosen (key_grow leaf rest), plant_cons]
    rfl

/-- The branches of chosen segments grow from the entries that start with one. -/
theorem filter_ofEntries (entries : Entries SchemaNode) :
    (ofEntries entries).filter (chosen ·.key) =
      ofEntries (entries.filter fun entry => StartChosen chosen entry.1) := by
  induction entries using List.reverseRecOn with
  | nil => rfl
  | append_singleton entries entry inductionHypothesis =>
      obtain ⟨path, leaf⟩ := entry
      rw [ofEntries_append, filter_insert, inductionHypothesis, List.filter_append]
      cases isChosen : StartChosen chosen path with
      | true => simp [isChosen, ofEntries_append]
      | false => simp [isChosen]

end PathTree

namespace RuleSet

/-- The rules whose paths start with a chosen segment. -/
def startingIn (rules : RuleSet) (chosen : String → Bool) : RuleSet where
  entries := rules.entries.filter fun entry => PathTree.StartChosen chosen entry.1
  distinct := rules.distinct.sublist (List.filter_sublist.map Prod.fst)

/-- The rules whose paths start with the segment. -/
def under (rules : RuleSet) (segment : String) : RuleSet :=
  rules.startingIn (· == segment)

/-- The rules of all other paths. -/
def without (rules : RuleSet) (path : String) : RuleSet where
  entries := rules.entries.filter fun entry => entry.1 ≠ path
  distinct := rules.distinct.sublist (List.filter_sublist.map Prod.fst)

/-- The nodes whose keys are not the first segment of the path. -/
def awayFrom (path : String) (nodes : List SchemaNode) : List SchemaNode :=
  nodes.filter fun node => PathTree.next? [] path ≠ some node.key

variable (options : CompileOptions) (rules : RuleSet)

/-- The rules that start with chosen segments compile to the nodes with these keys. -/
theorem compile_startingIn (chosen : String → Bool) :
    (rules.startingIn chosen).compile options =
      (rules.compile options).filter (chosen ·.key) := by
  have sameLeaves : (rules.startingIn chosen).leaves options =
      (rules.leaves options).filter fun entry => PathTree.StartChosen chosen entry.1 := by
    rw [leaves, leaves, List.filter_map]
    rfl
  calc (rules.startingIn chosen).compile options
      = PathTree.nodes options (PathTree.ofEntries ((rules.startingIn chosen).leaves options)) := rfl
    _ = PathTree.nodes options
          ((PathTree.ofEntries (rules.leaves options)).filter (chosen ·.key)) := by
        rw [sameLeaves, PathTree.filter_ofEntries]
    _ = (PathTree.nodes options (PathTree.ofEntries (rules.leaves options))).filter
          (chosen ·.key) := by
        rw [PathTree.nodes_eq_map, PathTree.nodes_eq_map, List.filter_map]
        congr 2
        funext branch
        rw [Function.comp_apply, PathTree.key_node]
    _ = (rules.compile options).filter (chosen ·.key) := rfl

theorem startingIn_insert {chosen : String → Bool} {path : String}
    (other : PathTree.StartChosen chosen path = false) (declaration : Declaration) :
    (rules.insert path declaration).startingIn chosen = rules.startingIn chosen :=
  eq_of_entries (Entries.filter_put other declaration rules.entries)

theorem startingIn_without {chosen : String → Bool} {path : String}
    (other : PathTree.StartChosen chosen path = false) :
    (rules.without path).startingIn chosen = rules.startingIn chosen := by
  apply eq_of_entries
  refine (List.filter_filter ..).trans (List.filter_congr fun entry _ => ?_)
  by_cases here : entry.1 = path <;> simp [here, other]

theorem nodup_nextSegments : (rules.nextSegments []).Nodup := by
  rw [← keys_compile {} rules, compile_eq]
  exact PathTree.siblingsDistinct_nodes {} (allGrown_branches {} rules)

/-- The rules under a first segment compile to one node, which has the segment as its key. -/
theorem compile_under {segment : String} (first : segment ∈ rules.nextSegments []) :
    ∃ node, (rules.under segment).compile options = [node] ∧ node.key = segment := by
  have distinct := nodup_nextSegments rules
  rw [← keys_compile options rules] at first distinct
  obtain ⟨node, member, rfl⟩ := List.mem_map.mp first
  exact ⟨node, (compile_startingIn options rules _).trans (filter_name_of_mem distinct member), rfl⟩

/-- The nodes away from a path are what the rules compile to that start elsewhere. -/
theorem awayFrom_compile (path : String) :
    awayFrom path (rules.compile options) =
      (rules.startingIn fun segment => PathTree.next? [] path ≠ some segment).compile options :=
  (compile_startingIn options rules fun segment => PathTree.next? [] path ≠ some segment).symm

/-- Fields compile independently: a schema is the concatenation, over the first segments of the
paths, of what the rules under the segment compile to, which is one node. The rule of a path can be
put, replaced or removed without a change to any node but that of its first segment. -/
theorem compile_independent (options : CompileOptions) (rules : RuleSet) :
    rules.compile options =
        (rules.nextSegments []).flatMap (fun segment => (rules.under segment).compile options) ∧
      (∀ segment ∈ rules.nextSegments [],
        ∃ node, (rules.under segment).compile options = [node] ∧ node.key = segment) ∧
      ∀ path,
        (∀ declaration, awayFrom path ((rules.insert path declaration).compile options) =
          awayFrom path (rules.compile options)) ∧
        awayFrom path ((rules.without path).compile options) =
          awayFrom path (rules.compile options) := by
  refine ⟨?_, fun _ first => compile_under options rules first, fun path => ?_⟩
  · have distinct := nodup_nextSegments rules
    rw [← keys_compile options rules] at distinct ⊢
    simp only [under, compile_startingIn]
    exact eq_flatMap_filter_name distinct
  · have other : PathTree.StartChosen
        (fun segment => decide (PathTree.next? [] path ≠ some segment)) path = false := by
      rw [PathTree.StartChosen]
      cases PathTree.next? [] path <;> simp
    simp only [awayFrom_compile, startingIn_insert rules other, startingIn_without rules other,
      implies_true, and_self]

/-- The paths of two fields, in turns. -/
def interleavedRules : RuleSet :=
  .ofList
    [("ship.city", .text "required"), ("lines.*.sku", .text "string"), ("ship", .text "array"),
      ("lines", .text "array|min:1"), ("", .text "required")]

/-- The fields of the interleaved paths are two, and a declaration that no rule can be read from
leaves the other one alone. -/
theorem compile_independent_interleaved :
    interleavedRules.nextSegments [] = ["ship", "lines"] ∧
      (∃ ship, (interleavedRules.under "ship").compile {} = [ship] ∧ ship.key = "ship") ∧
      awayFrom "lines.*" ((interleavedRules.insert "lines.*" (.text "||:")).compile {}) =
        awayFrom "lines.*" (interleavedRules.compile {}) := by
  have independent := compile_independent {} interleavedRules
  have segments : interleavedRules.nextSegments [] = ["ship", "lines"] := by decide +kernel
  refine ⟨segments, independent.2.1 "ship" (by rw [segments]; decide), ?_⟩
  exact (independent.2.2 "lines.*").1 (.text "||:")

end RuleSet

end Formwork
