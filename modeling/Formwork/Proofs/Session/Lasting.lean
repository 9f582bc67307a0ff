/-
This file follows sessions through edits and reopenings: what reconciling, editing and storing keep
holds of the fields of a session after anything that is done with it.
-/

import Formwork.Proofs.Session.Run

namespace Formwork

namespace Store

/-- What is read from a store under a key is good. -/
def ReadsAt (good : List InstanceNode → Prop) (store : Store) (key : String) : Prop :=
  ∀ state, store.get? key = some state →
    ∀ nodes, SavedState.nodes state = .ok nodes → good nodes

variable {good : List InstanceNode → Prop} {store : Store} {key : String}

theorem good_load (nothing : good []) (stored : store.ReadsAt good key) : good (store.load key) := by
  rw [load]
  split
  · exact nothing
  · rename_i state found
    split
    · rename_i nodes read
      exact stored state found nodes read
    · exact nothing

/-- Fields that are good when they are read back are kept, whether the store takes them or not. -/
theorem readsAt_keep (stored : store.ReadsAt good key) {nodes : List InstanceNode}
    (readBack : good ((InstanceNode.sanitizedAll nodes).map InstanceNode.readBack)) :
    (store.keep key nodes).ReadsAt good key := by
  cases readOnly : store.readOnly with
  | true => rwa [keep_of_readOnly readOnly]
  | false =>
      intro state found read isRead
      rw [get?_keep readOnly, if_pos rfl] at found
      obtain rfl := Option.some.inj found
      rw [SavedState.nodes_ofNodes] at isRead
      obtain rfl := Except.ok.inj isRead
      exact readBack

end Store

variable [PatternEngine]

namespace Session

/-- What is done with a session: an edit, or opening it again, perhaps with another schema. -/
inductive Action where
  | edit (edit : Edit)
  | reopen (options : CompileOptions) (schema : List SchemaNode)

/-- The session after an action. A refused edit leaves it as it is. -/
def act (session : Session) : Action → Session
  | .edit edit => (session.perform edit).2
  | .reopen options schema => start options schema session.store session.key

/-- The session after actions, one after another. -/
def follow (session : Session) (actions : List Action) : Session :=
  actions.foldl act session

/-- An action makes a good edit, or opens the session with a good schema. -/
def Action.Good (goodSchema : List SchemaNode → Prop) (goodEdit : Edit → Prop) : Action → Prop
  | edit made => goodEdit made
  | reopen _ schema => goodSchema schema

/-- Good fields stay good when they are reconciled with a good schema, by good edits, and when they
are stored and read back. -/
structure Lasting (goodSchema : List SchemaNode → Prop) (goodEdit : Edit → Prop)
    (good : List InstanceNode → Prop) : Prop where
  nothing : good []
  reconciled (options : CompileOptions) {schema : List SchemaNode} {nodes : List InstanceNode} :
    goodSchema schema → good nodes → good (reconcile options schema nodes)
  edited {options : CompileOptions} {schema : List SchemaNode} {nodes after : List InstanceNode}
    {edit : Edit} {removed : Option InstanceNode} :
    goodSchema schema → good nodes → goodEdit edit →
      edit.apply options schema nodes = (.ok removed, after) → good after
  readBack {nodes : List InstanceNode} :
    good nodes → good ((InstanceNode.sanitizedAll nodes).map InstanceNode.readBack)

/-- The schema of a session is good, and so are its fields and those that it would be opened from. -/
structure Upholds (goodSchema : List SchemaNode → Prop) (good : List InstanceNode → Prop)
    (session : Session) : Prop where
  schema : goodSchema session.schema
  nodes : good session.nodes
  stored : session.store.ReadsAt good session.key

namespace Lasting

variable {goodSchema : List SchemaNode → Prop} {goodEdit : Edit → Prop}
  {good : List InstanceNode → Prop} (lasting : Lasting goodSchema goodEdit good)
include lasting

theorem upholds_start (options : CompileOptions) {schema : List SchemaNode}
    (schemaGood : goodSchema schema) {store : Store} {key : String}
    (stored : store.ReadsAt good key) :
    Upholds goodSchema good (start options schema store key) where
  schema := schemaGood
  nodes := lasting.reconciled options schemaGood (Store.good_load lasting.nothing stored)
  stored := stored

variable {session : Session} (upholds : Upholds goodSchema good session)
include upholds

theorem upholds_perform {edit : Edit} (editGood : goodEdit edit) :
    Upholds goodSchema good (session.perform edit).2 := by
  rcases perform_cases session edit with ⟨error, refused⟩ | ⟨removed, nodes, applied, performed⟩
  · rw [refused]
    exact upholds
  · have nodesGood := lasting.edited upholds.schema upholds.nodes editGood applied
    rw [performed]
    exact ⟨upholds.schema, nodesGood,
      Store.readsAt_keep upholds.stored (lasting.readBack nodesGood)⟩

theorem upholds_act {action : Action} (actionGood : action.Good goodSchema goodEdit) :
    Upholds goodSchema good (session.act action) := by
  cases action with
  | edit edit => exact lasting.upholds_perform upholds actionGood
  | reopen options schema => exact lasting.upholds_start options actionGood upholds.stored

theorem upholds_follow {actions : List Action}
    (actionsGood : ∀ action ∈ actions, action.Good goodSchema goodEdit) :
    Upholds goodSchema good (session.follow actions) := by
  induction actions generalizing session with
  | nil => exact upholds
  | cons action rest inductionHypothesis =>
      rw [List.forall_mem_cons] at actionsGood
      apply inductionHypothesis
      · exact lasting.upholds_act upholds actionsGood.1
      · exact actionsGood.2

theorem upholds_run {edits : List Edit} (editsGood : ∀ edit ∈ edits, goodEdit edit) :
    Upholds goodSchema good (session.run edits) := by
  induction edits generalizing session with
  | nil => exact upholds
  | cons edit rest inductionHypothesis =>
      rw [List.forall_mem_cons] at editsGood
      apply inductionHypothesis
      · exact lasting.upholds_perform upholds editsGood.1
      · exact editsGood.2

end Lasting

end Session

end Formwork
