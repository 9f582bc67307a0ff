/-
This file shows which node of a schema stands for a key.
-/

import Formwork.Instance.Reconcile
import Formwork.Proofs.Text.Glob
import Formwork.SizedEngine
import Mathlib.Data.List.Find

namespace Formwork

/-- The value has the property, and no value before it has. -/
structure First {α : Type} (property : α → Prop) (values : List α) (value : α) : Prop where
  holds : property value
  first : ∃ before after, values = before ++ value :: after ∧ ∀ other ∈ before, ¬ property other

theorem find?_eq_some_iff_first {α : Type} {property : α → Prop} [DecidablePred property]
    {values : List α} {value : α} :
    values.find? (fun other => decide (property other)) = some value ↔
      First property values value := by
  rw [List.find?_eq_some_iff_append]
  constructor
  · rintro ⟨holds, before, after, whole, none⟩
    exact ⟨of_decide_eq_true holds, before, after, whole, by simpa using none⟩
  · rintro ⟨holds, before, after, whole, none⟩
    exact ⟨decide_eq_true holds, before, after, whole, by simpa using none⟩

namespace SchemaNode

/-- A node whose key is a template for the key. -/
def StandsFor (wildcard key : String) (node : SchemaNode) : Prop :=
  node.info.isPattern = true ∧ Text.Globs wildcard node.key key

instance (wildcard key : String) : DecidablePred (StandsFor wildcard key) :=
  fun _ => inferInstanceAs (Decidable (_ ∧ _))

section

variable [PatternEngine]

/-- The engine makes a matcher of the template. -/
def Compiles (wildcard template : String) : Prop :=
  PatternEngine.compiles
    (.template (Text.Glob.ofTemplate wildcard.toList template.toList)) = true

instance (wildcard template : String) : Decidable (Compiles wildcard template) :=
  inferInstanceAs (Decidable (_ = true))

theorem describes_eq {wildcard : String} {node : SchemaNode}
    (compiled : node.info.isPattern = true → Compiles wildcard node.key) (key : String) :
    describes wildcard key node = decide (StandsFor wildcard key node) := by
  cases pattern : node.info.isPattern with
  | false => simp [describes, StandsFor, pattern]
  | true => simp [describes, StandsFor, pattern, Text.globMatches_eq_globs (compiled pattern)]

theorem counterpart?_eq {wildcard : String} {schema : List SchemaNode}
    (compiled : ∀ node ∈ schema, node.info.isPattern = true → Compiles wildcard node.key)
    (key : String) :
    counterpart? wildcard schema key =
      (schema.find? (fun node => decide (node.key = key))).or
        (schema.find? (fun node => decide (StandsFor wildcard key node))) := by
  have described : schema.find? (describes wildcard key) =
      schema.find? (fun node => decide (StandsFor wildcard key node)) :=
    List.find?_congr fun node member => describes_eq (compiled node member) key
  rw [counterpart?, described, Option.orElse_eq_orElse, Option.orElse_eq_or]
  rfl

/-- A key matches a template exactly if it consists of the pieces of the template between its leftmost
wildcards, with a text of one line in place of each wildcard, and with an empty wildcard exactly if
it is the template. So the node for a key is the first with this key, and if there is none the first
template that stands for it. -/
theorem counterpart?_globs (wildcard : String) :
    (∀ template key, Compiles wildcard template →
      (Text.globMatches wildcard template key = true ↔ Text.Globs wildcard template key)) ∧
    ∀ (schema : List SchemaNode) (key : String),
      (∀ node ∈ schema, node.info.isPattern = true → Compiles wildcard node.key) →
      ∀ node, counterpart? wildcard schema key = some node ↔
        First (·.key = key) schema node ∨
          (∀ other ∈ schema, other.key ≠ key) ∧ First (StandsFor wildcard key) schema node := by
  constructor
  · intro template key compiled
    rw [Text.globMatches_eq_globs compiled, decide_eq_true_iff]
  · intro schema key compiled node
    rw [counterpart?_eq compiled, Option.or_eq_some_iff, find?_eq_some_iff_first,
      find?_eq_some_iff_first, List.find?_eq_none]
    simp

end

/-- Of three wildcard signs the first two are a wildcard and the last is a character, and so are the
signs that mean something to other matchers. The second template is the first that stands for its
key, although a later node has a template for it too. -/
theorem counterpart?_globs_price :
    let template (key : String) : SchemaNode :=
      .leaf { key := key, type := .text, isPattern := true }
    let schema := [.leaf { key := "price_", type := .text }, template "price.***",
      template "price_(**)+***", template "price_**"]
    (∀ key, key ∈ ["price.***", "price_(**)+***", "price_**"] → Compiles "**" key) ∧
      Text.globMatches "**" "price_(**)+***" "price_()+net*" = true ∧
      Text.globMatches "**" "price_(**)+***" "price_(a\nb)+*" = false ∧
      (∀ node ∈ schema, node.info.isPattern = true → Compiles "**" node.key) ∧
      First (StandsFor "**" "price_()+net*") schema (template "price_(**)+***") ∧
      counterpart? "**" schema "price_()+net*" = some (template "price_(**)+***") := by
  intro template schema
  have compiled : ∀ key, key ∈ ["price.***", "price_(**)+***", "price_**"] → Compiles "**" key := by
    decide
  have allCompiled : ∀ node ∈ schema, node.info.isPattern = true → Compiles "**" node.key := by
    decide
  obtain ⟨matching, counterparts⟩ := counterpart?_globs "**"
  have isFirst : First (StandsFor "**" "price_()+net*") schema (template "price_(**)+***") :=
    ⟨by decide, schema.take 2, schema.drop 3, rfl, by decide⟩
  refine ⟨compiled, ?_, ?_, allCompiled, isFirst, ?_⟩
  · exact (matching _ _ (compiled _ (by decide))).mpr (by decide)
  · rw [Bool.eq_false_iff, ne_eq, matching _ _ (compiled _ (by decide))]
    decide
  · exact (counterparts schema _ allCompiled _).mpr (.inr ⟨by decide, isFirst⟩)

end SchemaNode

end Formwork
