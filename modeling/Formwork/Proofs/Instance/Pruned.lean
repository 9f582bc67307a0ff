/-
This file shows that the payload tells nothing about fields that are not sent: it is the payload of
the fields that are left when these are taken away.
-/

import Formwork.Instance.Payload
import Formwork.Proofs.Instance.Levels
import Formwork.Proofs.Instance.Position
import Formwork.Proofs.Json.Settled

namespace Formwork

namespace InstanceNode

/-- Whether a field is sent with what has the shape around it. Only items of a list need no key, and
nothing is taken away from a scalar. -/
def isSentFrom (node : InstanceNode) : Shape → Bool
  | .object => node.enabled && !node.key.isEmpty
  | .list => node.enabled
  | .scalar => true

mutual

/-- The field without the fields inside it that are not sent, at every depth. -/
def pruned : InstanceNode → InstanceNode
  | ⟨key, type, value, enabled, children, childDef, info⟩ =>
      ⟨key, type, value, enabled, prunedInside type.shape children, childDef, info⟩

/-- The fields inside a shape that are sent. -/
def prunedInside (shape : Shape) : List InstanceNode → List InstanceNode
  | [] => []
  | node :: rest =>
      if node.isSentFrom shape then pruned node :: prunedInside shape rest
      else prunedInside shape rest

end

/-- The fields at the top that are sent, like those of an object. -/
abbrev prunedAll (nodes : List InstanceNode) : List InstanceNode :=
  prunedInside .object nodes

theorem prunedInside_eq_map (shape : Shape) (nodes : List InstanceNode) :
    prunedInside shape nodes = (nodes.filter (·.isSentFrom shape)).map pruned := by
  induction nodes with
  | nil => rfl
  | cons node rest inductionHypothesis =>
      rw [prunedInside, inductionHypothesis, List.filter_cons]
      split <;> rfl

theorem payloadMembers_eq_map (nodes : List InstanceNode) :
    payloadMembers nodes =
      (nodes.filter (·.isSentFrom .object)).map fun node => (node.key, payloadValue node) := by
  induction nodes with
  | nil => rfl
  | cons node rest inductionHypothesis =>
      rw [payloadMembers, inductionHypothesis, List.filter_cons, isSentFrom]
      cases node.enabled <;> cases node.key.isEmpty <;> rfl

theorem names_payloadMembers (nodes : List InstanceNode) :
    Entries.names (payloadMembers nodes) =
      (nodes.filter (·.isSentFrom .object)).map (·.key) := by
  rw [payloadMembers_eq_map, Entries.names, List.map_map]
  rfl

/-- A name is sent by a field that is on. -/
theorem mem_names_payloadMembers {nodes : List InstanceNode} {name : String} :
    name ∈ Entries.names (payloadMembers nodes) ↔
      ∃ node ∈ nodes, node.key = name ∧ name ≠ "" ∧ node.enabled = true := by
  rw [names_payloadMembers, List.mem_map]
  refine exists_congr fun node => ?_
  rw [List.mem_filter, isSentFrom, Bool.and_eq_true, Bool.not_eq_true',
    String.isEmpty_eq_false_iff]
  constructor
  · rintro ⟨⟨among, on, named⟩, rfl⟩
    exact ⟨among, rfl, named, on⟩
  · rintro ⟨among, rfl, named, on⟩
    exact ⟨⟨among, on, named⟩, rfl⟩

theorem names_payloadMembers_sublist (nodes : List InstanceNode) :
    (Entries.names (payloadMembers nodes)).Sublist (nodes.map (·.key)) := by
  rw [names_payloadMembers]
  exact List.filter_sublist.map _

/-- Of fields with distinct keys no two are sent under one name. -/
theorem settle_payloadMembers {nodes : List InstanceNode}
    (distinct : (nodes.map (·.key)).Nodup) :
    Entries.settle (payloadMembers nodes) = payloadMembers nodes :=
  Entries.settle_of_nodup ((names_payloadMembers_sublist nodes).nodup distinct)

theorem payloadItems_eq_map (nodes : List InstanceNode) :
    payloadItems nodes = (nodes.filter (·.isSentFrom .list)).map payloadValue := by
  induction nodes with
  | nil => rfl
  | cons node rest inductionHypothesis =>
      rw [payloadItems, inductionHypothesis, List.filter_cons, isSentFrom]
      split <;> rfl

@[simp]
theorem isSentFrom_pruned (node : InstanceNode) : (pruned node).isSentFrom = node.isSentFrom := by
  funext shape
  cases node
  cases shape <;> rfl

@[simp]
theorem key_pruned (node : InstanceNode) : (pruned node).key = node.key := by
  cases node
  rfl

/-- What is sent is all that is left, so that it is sent again. -/
theorem filter_prunedInside (shape : Shape) (nodes : List InstanceNode) :
    (prunedInside shape nodes).filter (·.isSentFrom shape) = prunedInside shape nodes := by
  rw [prunedInside_eq_map, List.filter_eq_self, List.forall_mem_map]
  intro node member
  rw [isSentFrom_pruned]
  exact (List.mem_filter.mp member).2

theorem payloadMembers_prunedInside_of {nodes : List InstanceNode}
    (each : ∀ node ∈ nodes, payloadValue (pruned node) = payloadValue node) :
    payloadMembers (prunedInside .object nodes) = payloadMembers nodes := by
  rw [payloadMembers_eq_map, filter_prunedInside, prunedInside_eq_map, payloadMembers_eq_map,
    List.map_map]
  apply List.map_congr_left
  intro node member
  rw [Function.comp_apply, key_pruned, each node (List.mem_filter.mp member).1]

theorem payloadItems_prunedInside_of {nodes : List InstanceNode}
    (each : ∀ node ∈ nodes, payloadValue (pruned node) = payloadValue node) :
    payloadItems (prunedInside .list nodes) = payloadItems nodes := by
  rw [payloadItems_eq_map, filter_prunedInside, prunedInside_eq_map, payloadItems_eq_map,
    List.map_map]
  exact List.map_congr_left fun node member => each node (List.mem_filter.mp member).1

/-- A field contributes the same without what is not sent. -/
theorem payloadValue_pruned (node : InstanceNode) :
    payloadValue (pruned node) = payloadValue node := by
  induction node using InstanceNode.induction with
  | inside node inductionHypothesis =>
      obtain ⟨key, type, value, enabled, children, childDef, info⟩ := node
      cases type with
      | object =>
          exact congrArg (fun members => Json.obj (Entries.settle members))
            (payloadMembers_prunedInside_of inductionHypothesis)
      | array => exact congrArg Json.arr (payloadItems_prunedInside_of inductionHypothesis)
      | _ => rfl

theorem payload_prunedAll (nodes : List InstanceNode) : payload (prunedAll nodes) = payload nodes := by
  rw [payload, payload, payloadMembers_prunedInside_of fun node _ => payloadValue_pruned node]

/-! What a payload does not tell apart. -/

/-- Two fields are sent alike if neither is sent, or both with one key and one value. -/
def SentAlike (first second : InstanceNode) : Prop :=
  first.enabled = second.enabled ∧
    (first.enabled = true → first.key = second.key ∧ payloadValue first = payloadValue second)

theorem payloadMembers_set {nodes : List InstanceNode} {index : Nat} {old new : InstanceNode}
    (isOld : nodes[index]? = some old) (alike : SentAlike old new) :
    payloadMembers (nodes.set index new) = payloadMembers nodes := by
  induction nodes generalizing index with
  | nil => rfl
  | cons node rest inductionHypothesis =>
      cases index with
      | zero =>
          obtain rfl := Option.some.inj isOld
          rw [List.set_cons_zero, payloadMembers, payloadMembers, ← alike.1]
          cases sent : node.enabled with
          | false => rfl
          | true => rw [(alike.2 sent).1, (alike.2 sent).2]
      | succ index =>
          rw [List.set_cons_succ, payloadMembers, payloadMembers, inductionHypothesis isOld]

theorem payloadItems_set {nodes : List InstanceNode} {index : Nat} {old new : InstanceNode}
    (isOld : nodes[index]? = some old) (alike : SentAlike old new) :
    payloadItems (nodes.set index new) = payloadItems nodes := by
  induction nodes generalizing index with
  | nil => rfl
  | cons node rest inductionHypothesis =>
      cases index with
      | zero =>
          obtain rfl := Option.some.inj isOld
          rw [List.set_cons_zero, payloadItems, payloadItems, ← alike.1]
          cases sent : node.enabled with
          | false => rfl
          | true => rw [(alike.2 sent).2]
      | succ index =>
          rw [List.set_cons_succ, payloadItems, payloadItems, inductionHypothesis isOld]

/-- A field is sent alike with another field inside it that is sent alike. -/
theorem sentAlike_withChildren {node old new : InstanceNode} {index : Nat}
    (isOld : node.children[index]? = some old) (alike : SentAlike old new) :
    SentAlike node { node with children := node.children.set index new } := by
  refine ⟨rfl, fun _ => ⟨rfl, ?_⟩⟩
  obtain ⟨key, type, value, enabled, children, childDef, info⟩ := node
  cases type with
  | object =>
      exact congrArg (fun members => Json.obj (Entries.settle members))
        (payloadMembers_set isOld alike).symm
  | array => exact congrArg Json.arr (payloadItems_set isOld alike).symm
  | _ => rfl

/-- Replacing a field by one that is sent alike replaces a field of the top by one that is. -/
theorem exists_set_of_replaceAt {level : List Nat} {index : Nat} {nodes fields : List InstanceNode}
    {old new : InstanceNode} (stands : levelAt? level nodes = some fields)
    (isOld : fields[index]? = some old) (alike : SentAlike old new) :
    ∃ place outerOld outerNew, nodes[place]? = some outerOld ∧ SentAlike outerOld outerNew ∧
      replaceAt new index level nodes = nodes.set place outerNew := by
  induction level generalizing nodes with
  | nil =>
      obtain rfl := Option.some.inj stands
      exact ⟨index, old, new, isOld, alike, rfl⟩
  | cons outer level inductionHypothesis =>
      obtain ⟨node, isNode, standsInside⟩ := Option.bind_eq_some_iff.mp stands
      obtain ⟨inRange, isOuter⟩ := List.getElem?_eq_some_iff.mp isNode
      subst isOuter
      obtain ⟨place, innerOld, innerNew, isInner, innerAlike, isSet⟩ :=
        inductionHypothesis standsInside
      refine ⟨outer, _, _, isNode, sentAlike_withChildren isInner innerAlike, ?_⟩
      rw [replaceAt_cons ⟨outer, inRange⟩, List.get_eq_getElem, isSet]

end InstanceNode

/-- The payload is the one of the fields that are left without all fields that are off or have no
key, and without all items that are off. So it is the same for all fields of which the same is left,
and whatever stands in the place of a field that is off. -/
theorem payload_pruned (nodes : List InstanceNode) :
    payload (InstanceNode.prunedAll nodes) = payload nodes ∧
      (∀ others, InstanceNode.prunedAll others = InstanceNode.prunedAll nodes →
        payload others = payload nodes) ∧
      ∀ level index fields hidden, InstanceNode.levelAt? level nodes = some fields →
        fields[index]? = some hidden → hidden.enabled = false →
          ∀ other : InstanceNode, other.enabled = false →
            payload (InstanceNode.replaceAt other index level nodes) = payload nodes := by
  refine ⟨InstanceNode.payload_prunedAll nodes, ?_, ?_⟩
  · intro others same
    rw [← InstanceNode.payload_prunedAll, same, InstanceNode.payload_prunedAll]
  · intro level index fields hidden stands isHidden hiddenOff other otherOff
    have alike : InstanceNode.SentAlike hidden other :=
      ⟨hiddenOff.trans otherOff.symm, fun sent => absurd sent (hiddenOff ▸ Bool.false_ne_true)⟩
    obtain ⟨place, outerOld, outerNew, isOuter, outerAlike, isSet⟩ :=
      InstanceNode.exists_set_of_replaceAt stands isHidden alike
    rw [isSet, payload, payload, InstanceNode.payloadMembers_set isOuter outerAlike]

/-- An account with a card that is off, next to a list of which one item is off. -/
def accountFields : List InstanceNode :=
  [{ InstanceNode.fresh "account" .object with
      children :=
        [{ InstanceNode.fresh "owner" .text with value := .str "Ada" },
          { InstanceNode.fresh "card" .object with
            enabled := false
            children := [{ InstanceNode.fresh "number" .text with value := .str "4111" }] }] },
    { InstanceNode.fresh "tags" .array with
      children :=
        [{ InstanceNode.fresh "" .text with value := .str "a" },
          { InstanceNode.fresh "" .text with value := .str "b", enabled := false }] }]

/-- Neither the number of the card nor another field in its place shows in the payload. -/
theorem payload_pruned_account :
    InstanceNode.levelAt? [0] accountFields = some accountFields[0].children ∧
      accountFields[0].children[1]?.map (·.enabled) = some false ∧
      payload (InstanceNode.replaceAt { InstanceNode.fresh "card" .text with enabled := false } 1 [0]
          accountFields) =
        .obj [("account", .obj [("owner", .str "Ada")]), ("tags", .arr [.str "a"])] := by
  have stands : InstanceNode.levelAt? [0] accountFields = some accountFields[0].children := rfl
  refine ⟨stands, rfl, ?_⟩
  rw [(payload_pruned accountFields).2.2 [0] 1 _ accountFields[0].children[1] stands rfl rfl _ rfl]
  decide

end Formwork
