/-
This file shows what each operation of a session comes to: a refused one leaves the session and its
store as they are, any other changes the fields and saves them as far as the store allows it, whatever
the store answers.
-/

import Formwork.Proofs.Instance.Path
import Formwork.Session

namespace Formwork

/-- A field that is not a list is left as it is. -/
theorem InstanceNode.atomic_withItem {path : String} {node : InstanceNode} {error : Error}
    (refused : (node.withItem path).1 = .error error) : (node.withItem path).2 = node := by
  rw [withItem] at refused ⊢
  split
  · rename_i isList
    rw [if_pos isList] at refused
    cases refused
  · rfl

namespace Session

variable {Answer Next : Type}

/-- The same change with another answer. -/
def answering (answer : Answer → Next) (changed : Except Error Answer × List InstanceNode) :
    Except Error Next × List InstanceNode :=
  (changed.1.map answer, changed.2)

theorem answering_eq_ok_iff {answer : Answer → Next}
    {changed : Except Error Answer × List InstanceNode} {given : Next}
    {after : List InstanceNode} :
    answering answer changed = (.ok given, after) ↔
      ∃ value, changed = (.ok value, after) ∧ answer value = given := by
  constructor
  · intro answered
    rcases changed with ⟨error | value, nodes⟩
    · cases answered
    · cases answered
      exact ⟨value, rfl, rfl⟩
  · rintro ⟨value, rfl, rfl⟩
    rfl

end Session

namespace Edit

/-- What an edit does to the fields, told without the session that they belong to. -/
def apply [PatternEngine] (options : CompileOptions) (schema : List SchemaNode)
    (nodes : List InstanceNode) :
    Edit → Except Error (Option InstanceNode) × List InstanceNode
  | setValue path value =>
      only (Path.update path (fun node => (.ok (), { node with value := value })) nodes)
  | setEnabled path enabled =>
      only (Path.update path (fun node => (.ok (), { node with enabled := enabled })) nodes)
  | setType path type => only (Path.update path (fun node => (.ok (), node.withType type)) nodes)
  | addField parent key type => only (Path.add parent (.added key type) nodes)
  | pushItem path => only (Path.update path (InstanceNode.withItem path) nodes)
  | remove path => Session.answering some (Path.remove path nodes)
  | applyText text =>
      match Formwork.applyText options text nodes with
      | .ok after => (.ok none, after)
      | .error error => (.error error, nodes)
  | reset => (.ok none, InstanceNode.defaults schema)
where
  only : Except Error Unit × List InstanceNode →
      Except Error (Option InstanceNode) × List InstanceNode :=
    Session.answering fun _ => none

theorem only_eq_ok_iff {changed : Except Error Unit × List InstanceNode}
    {removed : Option InstanceNode} {after : List InstanceNode} :
    apply.only changed = (.ok removed, after) ↔ changed = (.ok (), after) ∧ removed = none := by
  rw [apply.only, Session.answering_eq_ok_iff]
  constructor
  · rintro ⟨_, isOk, rfl⟩
    exact ⟨isOk, rfl⟩
  · rintro ⟨isOk, rfl⟩
    exact ⟨(), isOk, rfl⟩

theorem applyText_of_apply [PatternEngine] {options : CompileOptions} {schema : List SchemaNode}
    {text : String} {nodes after : List InstanceNode} {removed : Option InstanceNode}
    (applied : (applyText text).apply options schema nodes = (.ok removed, after)) :
    Formwork.applyText options text nodes = .ok after := by
  rw [apply] at applied
  split at applied
  · rename_i read
    cases applied
    exact read
  · cases applied

end Edit

namespace Session

variable {Answer Next : Type}

/-- The session with other fields, which are saved as far as its store allows it. -/
def saving (session : Session) (nodes : List InstanceNode) : Session :=
  { session with nodes := nodes, store := session.store.keep session.key nodes }

/-- What becomes of a session by a change of its fields that is all or nothing. -/
def outcome (session : Session) :
    Except Error Answer × List InstanceNode → Except Error Answer × Session
  | (.error error, _) => (.error error, session)
  | (.ok answer, nodes) => (.ok answer, session.saving nodes)

/-- What follows on an operation starts from the session that it leaves, unless it fails. -/
theorem run_bind (first : Operation Answer) (next : Answer → Operation Next) (session : Session) :
    (first >>= next).run session =
      match first.run session with
      | (.ok answer, after) => (next answer).run after
      | (.error error, after) => (.error error, after) := by
  change (match first.run session with
    | (answer, after) => ExceptT.bindCont next answer after) = _
  rcases first.run session with ⟨error | answer, after⟩
  · rfl
  · rfl

/-- A change of the fields that is all or nothing makes an operation all or nothing that does not
touch them again before it saves them. -/
theorem run_change_bind {make : List InstanceNode → Except Error Answer × List InstanceNode}
    {saved : Answer → Operation Answer} {session : Session}
    (atomic : ∀ {error}, (make session.nodes).1 = .error error →
      (make session.nodes).2 = session.nodes)
    (saves : ∀ answer after, (saved answer).run after = (.ok answer, after.saving after.nodes)) :
    (change make >>= saved).run session = session.outcome (make session.nodes) := by
  have changed : (change make).run session =
      ((make session.nodes).1, { session with nodes := (make session.nodes).2 }) := rfl
  rw [run_bind, changed]
  rcases made : make session.nodes with ⟨error | answer, nodes⟩
  · rw [made] at atomic
    rw [show nodes = session.nodes from atomic rfl]
    rfl
  · exact saves answer _

/-! One operation after another. -/

section

variable (session : Session)

theorem run_setValue (path : String) (value : Json) :
    (setValue path value).run session =
      session.outcome
        (Path.update path (fun node => (.ok (), { node with value := value })) session.nodes) :=
  run_change_bind (Path.atomic_update_total _) fun _ _ => rfl

theorem run_setEnabled (path : String) (enabled : Bool) :
    (setEnabled path enabled).run session =
      session.outcome
        (Path.update path (fun node => (.ok (), { node with enabled := enabled })) session.nodes) :=
  run_change_bind (Path.atomic_update_total _) fun _ _ => rfl

theorem run_setType (path : String) (type : FieldType) :
    (setType path type).run session =
      session.outcome (Path.update path (fun node => (.ok (), node.withType type)) session.nodes) :=
  run_change_bind (Path.atomic_update_total _) fun _ _ => rfl

theorem run_addField (parent key : String) (type : FieldType) :
    (addField parent key type).run session =
      session.outcome (Path.add parent (.added key type) session.nodes) :=
  run_change_bind Path.atomic_add fun _ _ => rfl

theorem run_pushItem (path : String) :
    (pushItem path).run session =
      session.outcome (Path.update path (InstanceNode.withItem path) session.nodes) :=
  run_change_bind (Path.atomic_update InstanceNode.atomic_withItem) fun _ _ => rfl

theorem run_remove (path : String) :
    (remove path).run session = session.outcome (Path.remove path session.nodes) :=
  run_change_bind Path.atomic_remove fun _ _ => rfl

/-- An edit of the whole body takes effect only when all of it is read. -/
theorem run_applyText [PatternEngine] (text : String) :
    (applyText text).run session =
      match Formwork.applyText session.options text session.nodes with
      | .ok nodes => (.ok (), session.saving nodes)
      | .error error => (.error error, session) := by
  have got : (get : Operation Session).run session = (.ok session, session) := rfl
  rw [applyText, run_bind, got]
  dsimp only
  cases Formwork.applyText session.options text session.nodes with
  | ok nodes => rfl
  | error error => rfl

theorem run_reset :
    reset.run session = session.outcome (.ok (), InstanceNode.defaults session.schema) :=
  rfl

/-- Another answer to what is all or nothing. -/
theorem run_answering {operation : Operation Answer} {answer : Answer → Next}
    {changed : Except Error Answer × List InstanceNode}
    (ran : operation.run session = session.outcome changed) :
    (do return answer (← operation) : Operation Next).run session =
      session.outcome (answering answer changed) := by
  rw [run_bind, ran]
  rcases changed with ⟨error | value, nodes⟩
  · rfl
  · rfl

/-- Every edit is all or nothing. -/
theorem perform_eq [PatternEngine] (edit : Edit) :
    session.perform edit =
      session.outcome (edit.apply session.options session.schema session.nodes) := by
  rw [perform]
  cases edit with
  | setValue path value => exact run_answering session (run_setValue session path value)
  | setEnabled path enabled => exact run_answering session (run_setEnabled session path enabled)
  | setType path type => exact run_answering session (run_setType session path type)
  | addField parent key type => exact run_answering session (run_addField session parent key type)
  | pushItem path => exact run_answering session (run_pushItem session path)
  | remove path => exact run_answering session (run_remove session path)
  | applyText text =>
      rw [edited, run_bind, run_applyText, Edit.apply]
      cases Formwork.applyText session.options text session.nodes with
      | ok nodes => rfl
      | error error => rfl
  | reset => exact run_answering session (run_reset session)

/-- An edit is refused and changes nothing, or its fields are kept in the store. -/
theorem perform_cases [PatternEngine] (edit : Edit) :
    (∃ error, session.perform edit = (.error error, session)) ∨
      ∃ removed nodes,
        edit.apply session.options session.schema session.nodes = (.ok removed, nodes) ∧
        session.perform edit = (.ok removed, session.saving nodes) := by
  rw [perform_eq]
  rcases edit.apply session.options session.schema session.nodes with ⟨error | removed, nodes⟩
  · exact .inl ⟨error, rfl⟩
  · exact .inr ⟨removed, nodes, rfl, rfl⟩

end

variable {session : Session} {edit : Edit} {removed : Option InstanceNode}

theorem perform_of_apply [PatternEngine] {nodes : List InstanceNode}
    (applied : edit.apply session.options session.schema session.nodes = (.ok removed, nodes)) :
    session.perform edit = (.ok removed, session.saving nodes) := by
  rw [perform_eq, applied]
  rfl

/-- What an edit that is not refused makes of the fields. -/
theorem apply_of_done [PatternEngine] (done : (session.perform edit).1 = .ok removed) :
    ∃ after, edit.apply session.options session.schema session.nodes = (.ok removed, after) ∧
      (session.perform edit).2.nodes = after := by
  rcases perform_cases session edit with ⟨error, refused⟩ | ⟨_, nodes, applied, performed⟩
  · rw [refused] at done
    cases done
  · rw [performed] at done ⊢
    cases done
    exact ⟨nodes, applied, rfl⟩

end Session

end Formwork
