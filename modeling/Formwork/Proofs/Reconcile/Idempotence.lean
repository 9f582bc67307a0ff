/-
This file shows that reconciling fields a second time changes nothing, also when they were stored
and read in between.
-/

import Formwork.Proofs.Reconcile.View
import Formwork.SizedEngine

namespace Formwork

section

variable [PatternEngine]

namespace InstanceNode

variable (wildcard : String)

theorem kept_eq_self {counterpart : Option SchemaNode} {node : InstanceNode}
    (sameInside : keptInside wildcard counterpart node = node.children)
    (sameDef : (node.childDef <|> counterpart.bind ChildDef.ofNode?) = node.childDef)
    (sameInfo : node.info = counterpart.map (·.info)) :
    kept wildcard counterpart node = node := by
  rw [kept, sameInside, sameDef, ← sameInfo]
  cases node
  rfl

/-- The default fields of a schema stay if each of them does. -/
theorem reconcileFields_defaults_of {schema : List SchemaNode}
    (distinct : SchemaNode.AllKeysDistinct schema)
    (each : ∀ node ∈ schema, reconcileNode wildcard (some node) (ofSchema node) = ofSchema node) :
    reconcileFields wildcard schema (defaults schema) = defaults schema := by
  by_cases empty : schema = []
  · rw [empty]
    rfl
  · rw [defaults_eq_map, reconcileFields_eq_map wildcard schema (by simpa using empty),
      List.map_map]
    apply List.map_congr_left
    intro node member
    rw [Function.comp_apply, reconcileIn, key_ofSchema,
      SchemaNode.counterpart?_key_of_mem wildcard distinct member]
    exact each node member

/-- A default field is what it is reconciled to, under any key. -/
theorem reconcileNode_rebuilt {schema : SchemaNode} (distinct : schema.KeysDistinct) (key : String) :
    reconcileNode wildcard (some schema) (rebuilt key schema) = rebuilt key schema := by
  induction schema using SchemaNode.induction generalizing key with
  | inside schema inductionHypothesis =>
      have distinctInside := (SchemaNode.keysDistinct_iff schema).mp distinct
      have each : ∀ node ∈ schema.children,
          reconcileNode wildcard (some node) (ofSchema node) = ofSchema node := by
        intro node member
        have same := inductionHypothesis node member
          (SchemaNode.keysDistinct_of_mem distinctInside member) node.key
        rwa [rebuilt_key] at same
      rw [reconcileNode_of_agrees wildcard (agrees_rebuilt key schema)]
      apply kept_eq_self
      · rw [keptInside, shape_rebuilt, children_rebuilt]
        cases shape : schema.shape with
        | object => exact reconcileFields_defaults_of wildcard distinctInside each
        | list => rfl
        | scalar => rfl
      · simp [childDef_rebuilt]
      · exact info_ofSchema schema

/-- The default fields of a schema are what they are reconciled to. -/
theorem reconcileFields_defaults {schema : List SchemaNode}
    (distinct : SchemaNode.AllKeysDistinct schema) :
    reconcileFields wildcard schema (defaults schema) = defaults schema := by
  apply reconcileFields_defaults_of wildcard distinct
  intro node member
  have same :=
    reconcileNode_rebuilt wildcard (SchemaNode.keysDistinct_of_mem distinct member) node.key
  rwa [rebuilt_key] at same

/-- Reconciling the fields of one level again changes nothing if that is so for each of them. -/
theorem reconcileFields_twice_of {schema : List SchemaNode} {nodes : List InstanceNode}
    (distinct : SchemaNode.AllKeysDistinct schema)
    (each : ∀ node ∈ nodes, ∀ counterpart : Option SchemaNode,
      (∀ schema ∈ counterpart, schema.KeysDistinct) →
        reconcileNode wildcard counterpart (reconcileNode wildcard counterpart node) =
          reconcileNode wildcard counterpart node) :
    reconcileFields wildcard schema (reconcileFields wildcard schema nodes) =
      reconcileFields wildcard schema nodes := by
  by_cases empty : nodes = []
  · rw [empty, reconcileFields_nil, reconcileFields_defaults wildcard distinct]
  · rw [reconcileFields_eq_map wildcard schema empty,
      reconcileFields_eq_map wildcard schema (by simpa using empty), List.map_map]
    apply List.map_congr_left
    intro node member
    simp only [Function.comp_apply, reconcileIn, key_reconcileNode]
    exact each node member _ (SchemaNode.keysDistinct_of_counterpart? distinct)

theorem reconcileNode_twice (node : InstanceNode) {counterpart : Option SchemaNode}
    (distinct : ∀ schema ∈ counterpart, schema.KeysDistinct) :
    reconcileNode wildcard counterpart (reconcileNode wildcard counterpart node) =
      reconcileNode wildcard counterpart node := by
  induction node using InstanceNode.induction generalizing counterpart with
  | inside node inductionHypothesis =>
      rcases agrees_or_stale counterpart node with agrees | ⟨schema, rfl, stale⟩
      · rw [reconcileNode_of_agrees wildcard agrees]
        have agreesAgain : Agrees counterpart (kept wildcard counterpart node) := agrees
        rw [reconcileNode_of_agrees wildcard agreesAgain]
        apply kept_eq_self
        · change keptInside _ _ (kept _ _ node) = keptInside _ _ node
          rw [keptInside, keptInside, shape_kept, children_kept, keptInside]
          cases shape : node.shape with
          | object =>
              exact reconcileFields_twice_of wildcard
                (SchemaNode.allKeysDistinct_counterpartChildren distinct)
                fun child member _ => inductionHypothesis child member
          | list => rfl
          | scalar => rfl
        · simp [kept, Option.or_assoc]
        · rfl
      · rw [reconcileNode_of_stale wildcard stale]
        exact reconcileNode_rebuilt wildcard (distinct schema rfl) node.key

theorem reconcileFields_twice {schema : List SchemaNode}
    (distinct : SchemaNode.AllKeysDistinct schema) (nodes : List InstanceNode) :
    reconcileFields wildcard schema (reconcileFields wildcard schema nodes) =
      reconcileFields wildcard schema nodes :=
  reconcileFields_twice_of wildcard distinct fun node _ _ => reconcileNode_twice wildcard node

end InstanceNode

/-- Reconciling twice is reconciling once. What is written of the fields also stays if what the
schema says about them is lost in between. -/
theorem reconcile_reconcile (options : CompileOptions) {schema : List SchemaNode}
    (distinct : SchemaNode.AllKeysDistinct schema) (stored : List InstanceNode) :
    reconcile options schema (reconcile options schema stored) = reconcile options schema stored ∧
      InstanceNode.nodesToJson
          (reconcile options schema (InstanceNode.detachedAll (reconcile options schema stored))) =
        InstanceNode.nodesToJson (reconcile options schema stored) := by
  have twice := InstanceNode.reconcileFields_twice options.wildcard distinct stored
  refine ⟨twice, ?_⟩
  have sameDetached := InstanceNode.isView_detached.reconcileFields_map options.wildcard schema
    (reconcile options schema stored)
  rw [← InstanceNode.nodesToJson_detachedAll, InstanceNode.detachedAll_eq_map,
    InstanceNode.detachedAll_eq_map, reconcile, sameDetached, reconcile, twice,
    ← InstanceNode.detachedAll_eq_map, InstanceNode.nodesToJson_detachedAll]

end

/-- A text under a key for which the schema has a template of objects is rebuilt once and for all,
and so are the fields of an empty object. -/
theorem reconcile_reconcile_template :
    SchemaNode.AllKeysDistinct
        [⟨{ key := "lang_*", type := .object, isPattern := true },
            some [.leaf { key := "word", type := .text }]⟩,
          ⟨{ key := "meta", type := .object }, some [.leaf { key := "word", type := .text }]⟩] ∧
      reconcile {}
          [⟨{ key := "lang_*", type := .object, isPattern := true },
              some [.leaf { key := "word", type := .text }]⟩,
            ⟨{ key := "meta", type := .object }, some [.leaf { key := "word", type := .text }]⟩]
          (reconcile {}
            [⟨{ key := "lang_*", type := .object, isPattern := true },
                some [.leaf { key := "word", type := .text }]⟩,
              ⟨{ key := "meta", type := .object }, some [.leaf { key := "word", type := .text }]⟩]
            [.fresh "lang_en" .text, .fresh "meta" .object]) =
        [{ InstanceNode.fresh "lang_en" .object with
            children :=
              [{ InstanceNode.fresh "word" .text with
                info := some { key := "word", type := .text } }]
            info := some { key := "lang_*", type := .object, isPattern := true } },
          { InstanceNode.fresh "meta" .object with
            children :=
              [{ InstanceNode.fresh "word" .text with
                info := some { key := "word", type := .text } }]
            info := some { key := "meta", type := .object } }] :=
  ⟨by decide, (reconcile_reconcile {} (by decide) _).1.trans (by decide)⟩

end Formwork
