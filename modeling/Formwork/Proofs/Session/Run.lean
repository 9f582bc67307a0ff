/-
This file follows a session through edits in any order: whatever happens, a store that refuses no
writes holds the last fields of the session.
-/

import Formwork.Proofs.Instance.Stored
import Formwork.Proofs.Session.Storable

namespace Formwork

namespace Session

/-- The session after edits, one after another. -/
def run [PatternEngine] (session : Session) (edits : List Edit) : Session :=
  edits.foldl (fun session edit => (session.perform edit).2) session

/-- A new session with the same schema on the same store and key. -/
def reopened [PatternEngine] (session : Session) : Session :=
  start session.options session.schema session.store session.key

/-- A store that refuses no writes holds the saved fields under the key of the session. -/
theorem get?_store_saving {session : Session} (writable : session.store.readOnly = false)
    (nodes : List InstanceNode) (key : String) :
    (session.saving nodes).store.get? key =
      if session.key = key then some (SavedState.ofNodes nodes) else session.store.get? key :=
  Store.get?_keep writable session.key key nodes

/-- What edits keep since a session was started: its fields are storable, and once one of the edits
was not refused they are stored under its key. -/
structure Follows (started session : Session) : Prop where
  sameOptions : session.options = started.options
  sameKey : session.key = started.key
  sameSchema : session.schema = started.schema
  writable : session.store.readOnly = false
  storable : InstanceNode.AllStorable session.nodes
  saved : session = started ∨
    session.store.get? session.key = some (SavedState.ofNodes session.nodes)

variable {started : Session}

variable [PatternEngine]

theorem follows_perform (named : ∀ node ∈ started.schema, node.TypesNamed) {session : Session}
    (follows : Follows started session) {edit : Edit} (editStorable : edit.Storable) :
    Follows started (session.perform edit).2 := by
  rcases perform_cases session edit with ⟨error, refused⟩ | ⟨removed, nodes, applied, performed⟩
  · rw [refused]
    exact follows
  · rw [performed]
    exact {
      sameOptions := follows.sameOptions
      sameKey := follows.sameKey
      sameSchema := follows.sameSchema
      writable := Store.readOnly_keep follows.writable session.key nodes
      storable := Edit.allStorable_of_apply (follows.sameSchema ▸ named) follows.storable
        editStorable applied
      saved := .inr ((get?_store_saving follows.writable nodes session.key).trans (if_pos rfl)) }

/-- A session follows the one that it was when all its edits began. -/
theorem follows_run (named : ∀ node ∈ started.schema, node.TypesNamed) {edits : List Edit}
    (editsStorable : ∀ edit ∈ edits, edit.Storable) {session : Session}
    (follows : Follows started session) : Follows started (session.run edits) := by
  induction edits generalizing session with
  | nil => exact follows
  | cons edit rest inductionHypothesis =>
      rw [List.forall_mem_cons] at editsStorable
      exact inductionHypothesis editsStorable.2 (follows_perform named follows editsStorable.1)

theorem follows_start {options : CompileOptions} {schema : List SchemaNode} {store : Store}
    (named : ∀ node ∈ schema, node.TypesNamed) (writable : store.readOnly = false) (key : String) :
    Follows (start options schema store key) (start options schema store key) where
  sameOptions := rfl
  sameKey := rfl
  sameSchema := rfl
  writable := writable
  storable := InstanceNode.allStorable_reconcileFields options.wildcard named
    (store.allStorable_load key)
  saved := .inl rfl

end Session

end Formwork
