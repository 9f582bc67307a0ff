/-
This file shows that edits are all or nothing: a refused edit leaves the session and its store, any
other is stored where the store allows it, and a store that refuses all writes changes no edit.
-/

import Formwork.Proofs.Session.Run
import Formwork.SizedEngine

namespace Formwork

section

variable [PatternEngine]

namespace Session

/-- The session with its fields as they are, on another store. -/
def on (session : Session) (store : Store) : Session :=
  { session with store := store }

/-- The answers to edits, one after another, each next to the fields after it. -/
def transcript (session : Session) :
    List Edit → List (Except Error (Option InstanceNode) × List InstanceNode)
  | [] => []
  | edit :: rest =>
      ((session.perform edit).1, (session.perform edit).2.nodes) ::
        (session.perform edit).2.transcript rest

/-- A refused edit leaves the session as it is, together with its store. -/
theorem perform_of_refused {session : Session} {edit : Edit} {error : Error}
    (refused : (session.perform edit).1 = .error error) : (session.perform edit).2 = session := by
  rcases perform_cases session edit with ⟨_, same⟩ | ⟨removed, nodes, _, performed⟩
  · rw [same]
  · rw [performed] at refused
    cases refused

/-- An edit that is not refused stores the fields after it, and nothing else. -/
theorem get?_store_perform {session : Session} (writable : session.store.readOnly = false)
    {edit : Edit} {removed : Option InstanceNode} (done : (session.perform edit).1 = .ok removed)
    (key : String) :
    (session.perform edit).2.store.get? key =
      if session.key = key then some (SavedState.ofNodes (session.perform edit).2.nodes)
      else session.store.get? key := by
  rcases perform_cases session edit with ⟨_, refused⟩ | ⟨_, nodes, _, performed⟩
  · rw [refused] at done
    cases done
  · rw [performed]
    exact get?_store_saving writable nodes key

/-- Sessions on stores with the same contents have the same fields. -/
theorem start_on (options : CompileOptions) (schema : List SchemaNode) {store other : Store}
    {key : String} (sameContents : other.get? key = store.get? key) :
    start options schema other key = (start options schema store key).on other := by
  have sameLoaded : other.load key = store.load key := by
    rw [Store.load, Store.load, sameContents]
  rw [start, sameLoaded]
  rfl

section

variable {refusing : Store} (refuses : refusing.readOnly = true)
include refuses

/-- An edit does the same on a store that refuses all writes, and leaves this store as it is. -/
theorem perform_on (session : Session) (edit : Edit) :
    (session.on refusing).perform edit =
      ((session.perform edit).1, (session.perform edit).2.on refusing) := by
  have sameChange : (session.on refusing).perform edit =
      (session.on refusing).outcome
        (edit.apply session.options session.schema session.nodes) := perform_eq _ edit
  rw [sameChange, perform_eq]
  rcases edit.apply session.options session.schema session.nodes with ⟨error | removed, nodes⟩
  · rfl
  · rw [outcome, outcome, saving, on, Store.keep_of_readOnly refuses]
    rfl

theorem transcript_on (session : Session) (edits : List Edit) :
    (session.on refusing).transcript edits = session.transcript edits := by
  induction edits generalizing session with
  | nil => rfl
  | cons edit rest inductionHypothesis =>
      rw [transcript, transcript, perform_on refuses, inductionHypothesis]
      rfl

theorem run_on (session : Session) (edits : List Edit) :
    (session.on refusing).run edits = (session.run edits).on refusing := by
  induction edits generalizing session with
  | nil => rfl
  | cons edit rest inductionHypothesis =>
      rw [run, run, List.foldl_cons, List.foldl_cons, perform_on refuses]
      exact inductionHypothesis (session.perform edit).2

end

end Session

/-- A refused edit changes neither the session nor its store. Any other edit leaves the written
fields under the key of the session, if the store allows it, and all other keys as they are. On a
store that refuses all writes edits have the same answers and the same fields one after another, and
the store stays as it is; only what it holds at first decides what a session on it starts from. -/
theorem edits_atomic_durable (session : Session) (edit : Edit) (edits : List Edit)
    {refusing : Store} (refuses : refusing.readOnly = true) :
    (∀ error, (session.perform edit).1 = .error error → (session.perform edit).2 = session) ∧
      (session.store.readOnly = false →
        ∀ removed, (session.perform edit).1 = .ok removed →
          ∀ key, (session.perform edit).2.store.get? key =
            if session.key = key then
              some (.arr (InstanceNode.nodesToJson
                (InstanceNode.sanitizedAll (session.perform edit).2.nodes)))
            else session.store.get? key) ∧
      (session.on refusing).transcript edits = session.transcript edits ∧
      ((session.on refusing).run edits).store = refusing ∧
      ∀ options schema key store, refusing.get? key = store.get? key →
        Session.start options schema refusing key =
          (Session.start options schema store key).on refusing := by
  refine ⟨fun _ => Session.perform_of_refused, ?_, Session.transcript_on refuses session edits, ?_,
    ?_⟩
  · intro writable removed done key
    exact Session.get?_store_perform writable done key
  · rw [Session.run_on refuses]
    rfl
  · intro options schema key store sameContents
    exact Session.start_on options schema sameContents

end

/-- A store with a draft that refuses all writes. -/
def frozenDraft : Store :=
  { entries := [("draft", .null)], readOnly := true }

/-- A session of a name, on a store with the same draft. -/
def nameForm : Session :=
  Session.start {} [.leaf { key := "name", type := .text }] { frozenDraft with readOnly := false }
    "form"

/-- A name is stored next to the draft, a field that is not there is not removed, and on the frozen
store both go the same way. -/
theorem edits_atomic_durable_name :
    frozenDraft.readOnly = true ∧
      (nameForm.perform (.remove "age")).1 = .error (.pathNotFound "age") ∧
      (nameForm.perform (.remove "age")).2 = nameForm ∧
      nameForm.store.readOnly = false ∧
      (nameForm.perform (.setValue "name" (.str "Ada"))).1 = .ok none ∧
      (nameForm.perform (.setValue "name" (.str "Ada"))).2.store.get? "form" =
        some (.arr [.obj [("key", .str "name"), ("type", .str "text"), ("value", .str "Ada"),
          ("enabled", .bool true), ("children", .arr [])]]) ∧
      (nameForm.perform (.setValue "name" (.str "Ada"))).2.store.get? "draft" = some .null ∧
      (nameForm.on frozenDraft).transcript [.setValue "name" (.str "Ada"), .remove "age"] =
        nameForm.transcript [.setValue "name" (.str "Ada"), .remove "age"] ∧
      ((nameForm.on frozenDraft).run [.setValue "name" (.str "Ada"), .remove "age"]).store =
        frozenDraft := by
  have refuses : frozenDraft.readOnly = true := rfl
  have writable : nameForm.store.readOnly = false := rfl
  have missing : (nameForm.perform (.remove "age")).1 = .error (.pathNotFound "age") := rfl
  have done : (nameForm.perform (.setValue "name" (.str "Ada"))).1 = .ok none := rfl
  have refused := edits_atomic_durable nameForm (.remove "age") [] refuses
  have saved := edits_atomic_durable nameForm (.setValue "name" (.str "Ada"))
    [.setValue "name" (.str "Ada"), .remove "age"] refuses
  refine ⟨refuses, missing, refused.1 _ missing, writable, done, ?_, ?_, saved.2.2.1,
    saved.2.2.2.1⟩
  · exact (saved.2.1 writable none done "form").trans (by decide +kernel)
  · exact (saved.2.1 writable none done "draft").trans (by decide +kernel)

end Formwork
