/-
This file shows what a session has when it is opened again on its store: the fields that it had,
reconciled with its schema.
-/

import Formwork.Proofs.Reconcile.Compatible
import Formwork.Proofs.Reconcile.Idempotence
import Formwork.Proofs.Schema.Compiled
import Formwork.Proofs.Session.Run
import Formwork.SizedEngine

namespace Formwork

namespace Session

/-- Opened again, a session without files holds what its fields hold that are reconciled with its
schema. -/
theorem contents_reopened [PatternEngine] {options : CompileOptions} {schema : List SchemaNode}
    {store : Store}
    (distinct : SchemaNode.AllKeysDistinct schema) (named : ∀ node ∈ schema, node.TypesNamed)
    (writable : store.readOnly = false) (key : String) {edits : List Edit}
    (editsStorable : ∀ edit ∈ edits, edit.Storable) {session : Session}
    (reached : (start options schema store key).run edits = session)
    (noFiles : InstanceNode.anyHasFiles session.nodes = false) :
    InstanceNode.contents session.reopened.nodes =
      InstanceNode.contents (reconcile options schema session.nodes) := by
  obtain ⟨sameOptions, sameKey, sameSchema, -, storable, saved⟩ :=
    reached ▸ follows_run named editsStorable (follows_start named writable key)
  rcases saved with unchanged | saved
  · -- No edit was successful, so the store still has what the session was started from.
    rw [unchanged]
    have twice := InstanceNode.reconcileFields_twice options.wildcard distinct (store.load key)
    exact (congrArg InstanceNode.contents twice).symm
  · have loaded := Store.contents_load saved storable noFiles
    rw [InstanceNode.contents_eq_map, InstanceNode.contents_eq_map] at loaded
    rw [reopened, start, sameOptions, sameSchema, InstanceNode.contents_eq_map,
      InstanceNode.contents_eq_map]
    exact InstanceNode.isView_content.reconcileFields_congr options.wildcard schema loaded

end Session

/-- A session of a compiled rule set that is opened again holds what its fields hold that are
reconciled with the schema. It holds the same as before exactly if the fields fit the schema and are
not empty unless the schema is, and then its payload is the same. No deleted field comes back as
long as one is left. -/
theorem reopened_run [PatternEngine] (rules : RuleSet) {store : Store}
    (writable : store.readOnly = false)
    (key : String) {edits : List Edit} (editsStorable : ∀ edit ∈ edits, edit.Storable)
    {session : Session}
    (reached : (Session.start {} (rules.compile {}) store key).run edits = session)
    (noFiles : InstanceNode.anyHasFiles session.nodes = false) :
    InstanceNode.contents session.reopened.nodes =
        InstanceNode.contents (reconcile {} (rules.compile {}) session.nodes) ∧
      (InstanceNode.contents session.reopened.nodes = InstanceNode.contents session.nodes ↔
        (session.nodes = [] → rules.compile {} = []) ∧
          InstanceNode.AllThroughout InstanceNode.Fits "*" (rules.compile {}) session.nodes) ∧
      ((session.nodes = [] → rules.compile {} = []) →
        InstanceNode.AllThroughout InstanceNode.Fits "*" (rules.compile {}) session.nodes →
          session.reopened.payload = session.payload) ∧
      (session.nodes ≠ [] →
        session.reopened.nodes.map (·.key) = session.nodes.map (·.key)) := by
  have same := Session.contents_reopened (RuleSet.allKeysDistinct_compile {} rules)
    (RuleSet.typesNamed_compile (by decide) rules) writable key editsStorable reached noFiles
  have keepsExactly :
      InstanceNode.contents session.reopened.nodes = InstanceNode.contents session.nodes ↔
        (session.nodes = [] → rules.compile {} = []) ∧
          InstanceNode.AllThroughout InstanceNode.Fits "*" (rules.compile {}) session.nodes := by
    rw [same, reconcile, InstanceNode.contents_reconcileFields_eq_iff]
  refine ⟨same, keepsExactly, ?_, ?_⟩
  · intro nonempty fits
    exact InstanceNode.payload_eq_of_contents_eq (keepsExactly.mpr ⟨nonempty, fits⟩)
  · intro left
    rw [← InstanceNode.keys_contents, same, InstanceNode.keys_contents]
    exact InstanceNode.keys_reconcileFields "*" (rules.compile {}) left

/-- The rules of a person with an address. -/
def personRules : RuleSet :=
  .ofList
    [("name", .text "required|string"), ("age", .text "integer"), ("address.zip", .text "string")]

/-- Edits of a person, one of which is refused. -/
def personEdits : List Edit :=
  [.setValue "name" (.str "Ada"), .remove "street", .addField "address" "city" .text,
    .remove "address.zip", .setType "name" .email, .setEnabled "name" true, .remove "age"]

def personSession : Session :=
  (Session.start {} (personRules.compile {}) {} "person").run personEdits

/-- The deleted fields of a person stay deleted, and the added ones stay. -/
theorem reopened_run_person :
    InstanceNode.anyHasFiles personSession.nodes = false ∧
      InstanceNode.AllThroughout InstanceNode.Fits "*" (personRules.compile {})
        personSession.nodes ∧
      personSession.reopened.payload =
        .obj [("name", .str "Ada"), ("address", .obj [("city", .str "")])] := by
  have writable : ({} : Store).readOnly = false := rfl
  have storable : ∀ edit ∈ personEdits, edit.Storable := by
    simp only [personEdits, List.forall_mem_cons, Edit.Storable, Json.NamesDistinct, true_and]
    exact ⟨by decide, by decide, List.forall_mem_nil _⟩
  have noFiles : InstanceNode.anyHasFiles personSession.nodes = false := by decide +kernel
  have reached :
      (Session.start {} (personRules.compile {}) {} "person").run personEdits = personSession := rfl
  have kept := (reopened_run personRules writable "person" storable reached noFiles).2.2.1
  refine ⟨noFiles, by decide +kernel, ?_⟩
  rw [kept (by decide +kernel) (by decide +kernel)]
  decide +kernel

/-- A session of one text, after edits. -/
def nameSession [PatternEngine] (edits : List Edit) : Session :=
  (Session.start {} ((RuleSet.ofList [("name", .text "string")]).compile {}) {} "form").run edits

/-- The only field comes back after it was deleted, a text that has become a list is a text again,
and a type that is named like a list does not survive. -/
theorem reopened_changes_payload :
    (InstanceNode.anyHasFiles (nameSession [.remove "name"]).nodes = false ∧
        (nameSession [.remove "name"]).payload = .obj [] ∧
        (nameSession [.remove "name"]).reopened.payload = .obj [("name", .str "")]) ∧
      (InstanceNode.anyHasFiles (nameSession [.setType "name" .array]).nodes = false ∧
        (nameSession [.setType "name" .array]).payload = .obj [("name", .arr [])] ∧
        (nameSession [.setType "name" .array]).reopened.payload = .obj [("name", .str "")]) ∧
      InstanceNode.anyHasFiles
          (nameSession [.setType "name" (.other "array"), .setValue "name" (.str "Ada")]).nodes =
            false ∧
        (nameSession [.setType "name" (.other "array"), .setValue "name" (.str "Ada")]).payload =
          .obj [("name", .str "Ada")] ∧
        (nameSession
            [.setType "name" (.other "array"), .setValue "name" (.str "Ada")]).reopened.payload =
          .obj [("name", .str "")] := by
  decide +kernel

end Formwork
