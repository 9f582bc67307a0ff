/-
This file shows that the order of rules is no more than the order of siblings: rules in another
order compile to the same schema, apart from the order of the fields at each level.
-/

import Formwork.Proofs.Schema.Siblings
import Mathlib.Data.List.Perm.Basic

namespace Formwork

namespace SchemaNode

/-- The nodes say the same, and what is inside them is the same up to the order at each level. -/
inductive Reordered : SchemaNode → SchemaNode → Prop where
  | leaf (info : FieldInfo) : Reordered ⟨info, none⟩ ⟨info, none⟩
  | fields {info : FieldInfo} {lefts order rights : List SchemaNode} (perm : order.Perm rights)
      (each : List.Forall₂ Reordered lefts order) :
      Reordered ⟨info, some lefts⟩ ⟨info, some rights⟩

/-- The nodes of one list are those of the other up to the order at each level. -/
def AllReordered (lefts rights : List SchemaNode) : Prop :=
  ∃ order, order.Perm rights ∧ List.Forall₂ Reordered lefts order

theorem Reordered.refl (node : SchemaNode) : Reordered node node := by
  induction node using SchemaNode.induction with
  | inside node inductionHypothesis =>
      obtain ⟨info, _ | nodes⟩ := node
      · exact .leaf info
      · exact .fields (.refl nodes) (List.forall₂_same.mpr inductionHypothesis)

theorem Reordered.withFields {lefts rights : List SchemaNode} (info : FieldInfo)
    (reordered : AllReordered lefts rights) :
    Reordered ⟨info, some lefts⟩ ⟨info, some rights⟩ := by
  obtain ⟨order, perm, each⟩ := reordered
  exact .fields perm each

theorem AllReordered.length_eq {lefts rights : List SchemaNode}
    (reordered : AllReordered lefts rights) : lefts.length = rights.length := by
  obtain ⟨order, perm, each⟩ := reordered
  exact each.length_eq.trans perm.length_eq

/-- What the items of a list are does not depend on the order of the fields in them. -/
theorem Reordered.ofItems {lefts rights : List SchemaNode} (options : CompileOptions)
    (info : FieldInfo) (item : Option SchemaNode) (reordered : AllReordered lefts rights) :
    Reordered (.ofItems options info item lefts) (.ofItems options info item rights) := by
  have sameEmpty : lefts.isEmpty = rights.isEmpty := by
    rw [Bool.eq_iff_iff, List.isEmpty_iff_length_eq_zero, List.isEmpty_iff_length_eq_zero,
      reordered.length_eq]
  rw [SchemaNode.ofItems, SchemaNode.ofItems, sameEmpty]
  split
  · exact .withFields _ reordered
  · exact .refl _

end SchemaNode

namespace PathTree

/-- The same segments lead to branches, with the same leaves at them. -/
def SameLeaves (lefts rights : List PathTree) : Prop :=
  ∀ asked, (branchAt? asked lefts).map (·.leaf) = (branchAt? asked rights).map (·.leaf)

section

variable {property : SchemaNode → Prop} {lefts rights : List PathTree}

theorem SameLeaves.isSome_find? (same : SameLeaves lefts rights) (key : String) :
    (lefts.find? (·.key = key)).isSome = (rights.find? (·.key = key)).isSome := by
  have atKey := congrArg Option.isSome (same [key])
  rwa [Option.isSome_map, Option.isSome_map] at atKey

variable (leftGrown : AllGrown property lefts) (rightGrown : AllGrown property rights)
  (same : SameLeaves lefts rights)
include leftGrown rightGrown same

/-- Branches of one key have the same leaf and the same leaves below them. -/
theorem SameLeaves.below {left right : PathTree} (leftMember : left ∈ lefts)
    (rightMember : right ∈ rights) (sameKey : left.key = right.key) :
    left.leaf = right.leaf ∧ SameLeaves left.children right.children := by
  have leftFound : lefts.find? (·.key = right.key) = some left :=
    sameKey ▸ find?_name_of_mem leftGrown.1 leftMember
  have rightFound : rights.find? (·.key = right.key) = some right :=
    find?_name_of_mem rightGrown.1 rightMember
  constructor
  · have atKey := same [right.key]
    rw [branchAt?, branchAt?, leftFound, rightFound] at atKey
    exact Option.some.inj atKey
  · intro rest
    by_cases nothing : rest = []
    · rw [nothing]
      rfl
    · have further := same (right.key :: rest)
      rwa [branchAt?_cons_of_find? nothing leftFound, branchAt?_cons_of_find? nothing rightFound]
        at further

/-- Branches have the same nodes up to the order at each level if those of one key have. -/
theorem SameLeaves.allReordered_nodes (options : CompileOptions)
    (each : ∀ left ∈ lefts, ∀ right ∈ rights, left.key = right.key →
      SchemaNode.Reordered (node options left) (node options right)) :
    SchemaNode.AllReordered (nodes options lefts) (nodes options rights) := by
  have keysPerm : (lefts.map (·.key)).Perm (rights.map (·.key)) := by
    rw [List.perm_ext_iff_of_nodup leftGrown.1 rightGrown.1]
    intro key
    have sameFound := same.isSome_find? key
    rw [Bool.eq_iff_iff, List.find?_isSome, List.find?_isSome] at sameFound
    simpa using sameFound
  -- the branches on the right, in the order in which their keys come on the left
  have byKey : List.Forall₂ (fun key branch => key = branch.key) (rights.map (·.key)) rights := by
    rw [List.forall₂_map_left_iff]
    exact List.forall₂_same.mpr fun _ _ => rfl
  obtain ⟨order, ordered, perm⟩ := List.perm_comp_forall₂ keysPerm byKey
  have inOrder : List.Forall₂ (fun left right => left.key = right.key) lefts order :=
    List.forall₂_map_left_iff.mp ordered
  refine ⟨order.map (node options), ?_, ?_⟩
  · rw [nodes_eq_map]
    exact perm.map _
  · rw [nodes_eq_map, List.forall₂_map_left_iff, List.forall₂_map_right_iff, List.forall₂_iff_zip]
    refine ⟨inOrder.length_eq, fun {left right} paired => ?_⟩
    have members := List.of_mem_zip paired
    exact each left members.1 right (perm.subset members.2)
      ((List.forall₂_iff_zip.mp inOrder).2 paired)

end

/-- Branches that differ in the order of what is below them alone have the same node, up to the order
at each level. -/
theorem reordered_of_children (options : CompileOptions) {left right : PathTree}
    (sameKey : left.key = right.key) (sameLeaf : left.leaf = right.leaf)
    (sameItem : left.item? options = none ↔ right.item? options = none)
    (items : ∀ item ∈ left.item? options, ∀ other ∈ right.item? options, item.leaf = other.leaf ∧
      SchemaNode.AllReordered (nodes options item.children) (nodes options other.children))
    (fields :
      SchemaNode.AllReordered (nodes options left.children) (nodes options right.children)) :
    SchemaNode.Reordered (node options left) (node options right) := by
  have sameStart : left.start = right.start := by rw [start, start, sameKey, sameLeaf]
  have sameInfo : left.startInfo options = right.startInfo options := by
    rw [startInfo, startInfo, sameStart, sameKey]
  cases leftItem : left.item? options with
  | some item =>
      obtain ⟨other, rightItem⟩ : ∃ other, right.item? options = some other :=
        Option.ne_none_iff_exists'.mp fun noItem => by simp [sameItem.mpr noItem] at leftItem
      obtain ⟨itemLeaf, itemFields⟩ := items item leftItem other rightItem
      rw [node_of_item leftItem, node_of_item rightItem, sameInfo, itemLeaf]
      exact .ofItems options _ _ itemFields
  | none =>
      have rightItem := sameItem.mp leftItem
      have sameLength := fields.length_eq
      rw [nodes_eq_map, nodes_eq_map, List.length_map, List.length_map] at sameLength
      by_cases leftNothing : left.children = []
      · have rightNothing : right.children = [] :=
          List.eq_nil_of_length_eq_zero (by rw [← sameLength, leftNothing, List.length_nil])
        rw [node_of_nothing leftNothing, node_of_nothing rightNothing, sameInfo, sameStart]
        exact .refl _
      · have rightSome : right.children ≠ [] := fun rightNothing =>
          leftNothing (List.eq_nil_of_length_eq_zero (by rw [sameLength, rightNothing]; rfl))
        rw [node_of_fields leftItem leftNothing, node_of_fields rightItem rightSome, sameInfo]
        exact .withFields _ fields

theorem key_of_item? {options : CompileOptions} {branch item : PathTree}
    (found : branch.item? options = some item) : item.key = options.wildcard := by
  simpa using List.find?_some found

/-- Branches with the same leaves have the same node, and the same nodes below them, up to the order
at each level. -/
theorem reordered_node (options : CompileOptions) {property : SchemaNode → Prop} (left : PathTree) :
    ∀ right, Grown property left → Grown property right → left.key = right.key →
      left.leaf = right.leaf → SameLeaves left.children right.children →
        SchemaNode.Reordered (node options left) (node options right) ∧
          SchemaNode.AllReordered (nodes options left.children) (nodes options right.children) := by
  -- the node of a wildcard is made of what is below its item, so both levels are carried along
  induction left using PathTree.induction with
  | below left inductionHypothesis =>
      intro right leftGrown rightGrown sameKey sameLeaf same
      have leftBelow := ((grown_iff left).mp leftGrown).2
      have rightBelow := ((grown_iff right).mp rightGrown).2
      have each (child) (childMember : child ∈ left.children) (other)
          (otherMember : other ∈ right.children) (keysAgree : child.key = other.key) :=
        inductionHypothesis child childMember other (leftBelow.2 child childMember)
          (rightBelow.2 other otherMember) keysAgree
          (same.below leftBelow rightBelow childMember otherMember keysAgree).1
          (same.below leftBelow rightBelow childMember otherMember keysAgree).2
      have fields := same.allReordered_nodes leftBelow rightBelow options
        fun child childMember other otherMember keysAgree =>
          (each child childMember other otherMember keysAgree).1
      refine ⟨reordered_of_children options sameKey sameLeaf ?_ ?_ fields, fields⟩
      · have sameFound := same.isSome_find? options.wildcard
        rw [← Option.not_isSome_iff_eq_none, ← Option.not_isSome_iff_eq_none, item?, item?,
          sameFound]
      · intro item leftItem other rightItem
        have itemMember := List.mem_of_find?_eq_some leftItem
        have otherMember := List.mem_of_find?_eq_some rightItem
        have keysAgree := (key_of_item? leftItem).trans (key_of_item? rightItem).symm
        exact ⟨(same.below leftBelow rightBelow itemMember otherMember keysAgree).1,
          (each item itemMember other otherMember keysAgree).2⟩

/-- The same leaves make the same nodes, up to the order at each level. -/
theorem SameLeaves.allReordered (options : CompileOptions) {property : SchemaNode → Prop}
    {lefts rights : List PathTree} (leftGrown : AllGrown property lefts)
    (rightGrown : AllGrown property rights) (same : SameLeaves lefts rights) :
    SchemaNode.AllReordered (nodes options lefts) (nodes options rights) := by
  apply same.allReordered_nodes leftGrown rightGrown options
  intro left leftMember right rightMember sameKey
  obtain ⟨sameLeaf, below⟩ := same.below leftGrown rightGrown leftMember rightMember sameKey
  exact (reordered_node options left right (leftGrown.2 left leftMember)
    (rightGrown.2 right rightMember) sameKey sameLeaf below).1

/-- The leaf that segments lead to. -/
def leafAt? (asked : List String) (branches : List PathTree) : Option SchemaNode :=
  ((branchAt? asked branches).map (·.leaf)).join

theorem leafAt?_plant (leaf : SchemaNode) {segments asked : List String} (planted : segments ≠ [])
    (nonempty : asked ≠ []) (branches : List PathTree) :
    leafAt? asked (plant leaf segments branches) =
      if asked = segments then some leaf else leafAt? asked branches := by
  rw [leafAt?, leaf_branchAt?_plant leaf planted nonempty, leafAt?]
  split
  · rfl
  · split
    · cases branchAt? asked branches <;> rfl
    · rfl

theorem leafAt?_insert {asked : List String} (nonempty : asked ≠ []) (path : String)
    (leaf : SchemaNode) (branches : List PathTree) :
    leafAt? asked (insert branches path leaf) =
      if path ≠ "" ∧ asked = segments path then some leaf else leafAt? asked branches := by
  rw [insert]
  by_cases unnamed : path = ""
  · simp [unnamed]
  · rw [if_neg (by simpa using unnamed), leafAt?_plant leaf (segments_ne_nil path) nonempty]
    simp [unnamed]

theorem exists_mem_of_leafAt? {asked : List String} (nonempty : asked ≠ [])
    {entries : Entries SchemaNode} {leaf : SchemaNode}
    (found : leafAt? asked (ofEntries entries) = some leaf) :
    ∃ path, (path, leaf) ∈ entries ∧ path ≠ "" ∧ asked = segments path := by
  induction entries using List.reverseRecOn with
  | nil =>
      rw [ofEntries, List.foldl_nil, leafAt?, branchAt?_nil] at found
      cases found
  | append_singleton entries entry inductionHypothesis =>
      obtain ⟨path, last⟩ := entry
      rw [ofEntries_append, leafAt?_insert nonempty] at found
      split at found
      · rename_i isLast
        cases found
        exact ⟨path, List.mem_concat_self, isLast⟩
      · obtain ⟨other, member, isAsked⟩ := inductionHypothesis found
        exact ⟨other, List.mem_append_left _ member, isAsked⟩

theorem leafAt?_of_mem {entries : Entries SchemaNode} (distinct : (Entries.names entries).Nodup)
    {path : String} {leaf : SchemaNode} (member : (path, leaf) ∈ entries) (named : path ≠ "") :
    leafAt? (segments path) (ofEntries entries) = some leaf := by
  have only : ∀ entry ∈ entries, entry.1 = path → entry.2 = leaf := by
    rintro ⟨_, otherLeaf⟩ otherMember rfl
    have found := Entries.find?_of_mem distinct member
    exact Option.some.inj ((Entries.find?_of_mem distinct otherMember).symm.trans found)
  rw [leafAt?, ofEntries, leaf_branchAt?_foldl_insert named only (.inl member)]
  rfl

/-- Entries in another order make the same leaves. -/
theorem sameLeaves_ofEntries {entries other : Entries SchemaNode}
    (distinct : (Entries.names entries).Nodup) (perm : entries.Perm other) :
    SameLeaves (ofEntries entries) (ofEntries other) := by
  have namesPerm : (Entries.names entries).Perm (Entries.names other) := perm.map Prod.fst
  have otherDistinct : (Entries.names other).Nodup := namesPerm.nodup_iff.mp distinct
  intro asked
  by_cases nonempty : asked = []
  · rw [nonempty]
    rfl
  have sameSome : (branchAt? asked (ofEntries entries)).isSome =
      (branchAt? asked (ofEntries other)).isSome := by
    rw [Bool.eq_iff_iff, ofEntries, ofEntries, isSome_branchAt?_foldl_insert nonempty,
      isSome_branchAt?_foldl_insert nonempty]
    simp only [namesPerm.mem_iff]
  have sameLeaf : leafAt? asked (ofEntries entries) = leafAt? asked (ofEntries other) := by
    apply Option.ext
    intro leaf
    constructor
    · intro found
      obtain ⟨path, member, named, rfl⟩ := exists_mem_of_leafAt? nonempty found
      exact leafAt?_of_mem otherDistinct (perm.mem_iff.mp member) named
    · intro found
      obtain ⟨path, member, named, rfl⟩ := exists_mem_of_leafAt? nonempty found
      exact leafAt?_of_mem distinct (perm.mem_iff.mpr member) named
  rw [leafAt?, leafAt?] at sameLeaf
  cases left : branchAt? asked (ofEntries entries) <;>
    cases right : branchAt? asked (ofEntries other) <;> simp_all

end PathTree

namespace RuleSet

/-- Rules in another order compile to the same nodes, up to the order at each level. -/
theorem allReordered_compile (options : CompileOptions) {rules other : RuleSet}
    (perm : rules.entries.Perm other.entries) :
    SchemaNode.AllReordered (rules.compile options) (other.compile options) := by
  have distinct : (Entries.names (rules.leaves options)).Nodup := by
    rw [names_leaves]
    exact rules.distinct
  have same : PathTree.SameLeaves (rules.branches options) (other.branches options) :=
    PathTree.sameLeaves_ofEntries distinct (perm.map _)
  rw [compile_eq, compile_eq]
  exact same.allReordered options (allGrown_branches options rules)
    (allGrown_branches options other)

/-- The order of rules only orders siblings: rules in another order compile to the same schema up to
the order at each level, and there siblings stand in the order in which the paths first name them
behind the beginning that leads to the level. -/
theorem compile_reordered (options : CompileOptions) (rules : RuleSet) :
    (∀ other : RuleSet, rules.entries.Perm other.entries →
        SchemaNode.AllReordered (rules.compile options) (other.compile options)) ∧
      (rules.compile options).map (·.key) = rules.nextSegments [] ∧
      ∀ route node, SchemaNode.Occurs (rules.compile options) route node →
        ∃ beginning, rules.Begins beginning ∧ keys? options.wildcard beginning = some route ∧
          SchemaNode.follow? options.wildcard beginning (rules.compile options) = some node ∧
          node.children.map (·.key) =
            if options.wildcard ∈ rules.nextSegments beginning then
              rules.nextSegments (beginning ++ [options.wildcard])
            else rules.nextSegments beginning :=
  ⟨fun _ perm => allReordered_compile options perm, keys_compile options rules,
    fun _ _ occurs => keys_children_of_occurs options rules occurs⟩

/-- The rules of a parcel: its own rule comes between those of its fields, and a literal item comes
before the wildcard. -/
def parcelRules : RuleSet :=
  .ofList
    [("parcel.weight", .text "numeric"), ("parcel", .text "required|array"),
      ("parcel.items.0", .text "integer"), ("parcel.to.city", .text "required"),
      ("parcel.items.*.name", .text "string|max:9"), ("parcel.items.*.count", .text "integer")]

/-- The rules of a parcel in another order. -/
def turnedParcelRules : RuleSet :=
  .ofList parcelRules.entries.reverse

/-- The parcel is the same up to the order of its fields, and in it stand the segments that come next
after the beginning that leads to it. -/
theorem compile_reordered_parcel :
    SchemaNode.AllReordered (parcelRules.compile {}) (turnedParcelRules.compile {}) ∧
      parcelRules.compile {} ≠ turnedParcelRules.compile {} ∧
      ∃ beginning, keys? "*" beginning = some ["parcel"] ∧
        (if "*" ∈ parcelRules.nextSegments beginning then
          parcelRules.nextSegments (beginning ++ ["*"])
        else parcelRules.nextSegments beginning) = ["weight", "items", "to"] := by
  have reordered := compile_reordered {} parcelRules
  refine ⟨reordered.1 turnedParcelRules parcelRules.entries.reverse_perm.symm,
    by decide +kernel, ?_⟩
  obtain ⟨parcel, member, isParcel, inside⟩ : ∃ parcel ∈ parcelRules.compile {},
      parcel.key = "parcel" ∧ parcel.children.map (·.key) = ["weight", "items", "to"] := by
    decide +kernel
  obtain ⟨beginning, _, keys, _, areKeys⟩ := reordered.2.2 _ parcel (.here member)
  exact ⟨beginning, isParcel ▸ keys, areKeys.symm.trans inside⟩

end RuleSet

end Formwork
