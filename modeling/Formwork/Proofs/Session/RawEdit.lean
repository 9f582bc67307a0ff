/-
This file shows when the body of a session, applied to the session as a text, is sent as before.
-/

import Formwork.Proofs.Instance.Pruned
import Formwork.Proofs.Instance.Resent
import Formwork.Proofs.Json.Written
import Formwork.Proofs.Schema.Compiled
import Formwork.Proofs.Session.Attached
import Formwork.Proofs.Session.Lifetime
import Formwork.SizedEngine

namespace Formwork

namespace InstanceNode

section

variable [PatternEngine] (wildcard : String)

mutual

/-- Whether a field that is rebuilt from what it sends sends the same again. The fields of an object
are found by their keys. What lists and values hold has no fields of its own, and is described by
the definition of the items only. -/
def keepsSent : InstanceNode → Bool
  | ⟨key, type, value, enabled, children, childDef, info⟩ =>
      if type = .object then allKeepSent children
      else
        match payloadValue ⟨key, type, value, enabled, children, childDef, info⟩ with
        | .null => false
        | .arr items => (Place.ofItem childDef).keepsItems wildcard items
        | .obj members => Place.keepsMembers wildcard [] members
        | _ => true

def allKeepSent : List InstanceNode → Bool
  | [] => true
  | node :: rest => (!node.isSentFrom .object || keepsSent node) && allKeepSent rest

end

end

/-- A field that is rebuilt from what the field sends sends the same. -/
def SendsSame [PatternEngine] (wildcard key : String) (node : InstanceNode) : Prop :=
  payloadValue (hydrateField wildcard key (some node) (payloadValue node)) = payloadValue node

theorem payloadMembers_cons (node : InstanceNode) (rest : List InstanceNode) :
    payloadMembers (node :: rest) =
      if node.isSentFrom .object then (node.key, payloadValue node) :: payloadMembers rest
      else payloadMembers rest := by
  rw [payloadMembers_eq_map, List.filter_cons, payloadMembers_eq_map]
  split <;> rfl

section

variable [PatternEngine] (wildcard : String)

/-- Fields that are rebuilt from what they send, next to all their siblings. -/
theorem payloadMembers_rebuilt {existing : List InstanceNode} (distinct : SiblingsDistinct existing)
    {nodes : List InstanceNode} (among : ∀ node ∈ nodes, node ∈ existing)
    (each : ∀ node ∈ nodes, (payloadValue node).NamesDistinct → ∀ key,
      (node.SendsSame wildcard key ↔ node.keepsSent wildcard = true))
    (namesDistinct : Json.MembersDistinct (payloadMembers nodes)) :
    payloadMembers (hydrateMembers wildcard existing (payloadMembers nodes)) =
        payloadMembers nodes ↔
      allKeepSent wildcard nodes = true := by
  induction nodes with
  | nil => simp [payloadMembers, hydrateMembers, allKeepSent]
  | cons node rest inductionHypothesis =>
      rw [List.forall_mem_cons] at among each
      rw [payloadMembers_cons] at namesDistinct ⊢
      by_cases isSent : node.isSentFrom .object = true
      · -- The member finds the field that it was sent by, so the rebuilt field is sent as well.
        rw [if_pos isSent] at namesDistinct ⊢
        obtain ⟨enabled, named⟩ := Bool.and_eq_true_iff.mp isSent
        have isOn : ∀ field ∈ some node, field.enabled = true := by
          rintro field ⟨⟩
          exact enabled
        have rebuiltSent : (hydrateField wildcard node.key (some node)
            (payloadValue node)).isSentFrom .object = true := by
          rw [isSentFrom, enabled_hydrateField wildcard node.key isOn, key_hydrateField, named]
          rfl
        rw [hydrateMembers, matching?_key wildcard distinct among.1, payloadMembers_cons,
          if_pos rebuiltSent, key_hydrateField, List.cons.injEq, Prod.mk.injEq, ← SendsSame,
          each.1 namesDistinct.1, inductionHypothesis among.2 each.2 namesDistinct.2, allKeepSent]
        simp [isSent]
      · rw [if_neg isSent] at namesDistinct ⊢
        rw [inductionHypothesis among.2 each.2 namesDistinct, allKeepSent]
        simp [isSent]

theorem sendsSame_object {node : InstanceNode} (isObject : node.type = .object)
    (distinct : SiblingsDistinct node.children)
    (each : ∀ child ∈ node.children, (payloadValue child).NamesDistinct → ∀ key,
      (child.SendsSame wildcard key ↔ child.keepsSent wildcard = true))
    (namesDistinct : (payloadValue node).NamesDistinct) (key : String) :
    node.SendsSame wildcard key ↔ node.keepsSent wildcard = true := by
  obtain ⟨own, type, value, enabled, children, childDef, info⟩ := node
  subst isObject
  have sent : payloadValue ⟨own, .object, value, enabled, children, childDef, info⟩ =
      .obj (payloadMembers children) := congrArg Json.obj (settle_payloadMembers distinct)
  have membersDistinct : Json.MembersDistinct (payloadMembers children) := by
    rw [sent] at namesDistinct
    exact namesDistinct.2
  have rebuiltDistinct := siblingsDistinct_hydrateMembers wildcard children
    ((names_payloadMembers_sublist children).nodup distinct)
  have resent : payloadValue (hydrateField wildcard key
      (some ⟨own, .object, value, enabled, children, childDef, info⟩)
      (.obj (payloadMembers children))) =
      .obj (payloadMembers (hydrateMembers wildcard children (payloadMembers children))) :=
    congrArg Json.obj (settle_payloadMembers rebuiltDistinct)
  rw [SendsSame, sent, resent, Json.obj.injEq,
    payloadMembers_rebuilt wildcard distinct (fun _ member => member) each membersDistinct]
  rfl

theorem sendsSame_list {node : InstanceNode} (isList : node.type = .array)
    (namesDistinct : (payloadValue node).NamesDistinct) (key : String) :
    node.SendsSame wildcard key ↔ node.keepsSent wildcard = true := by
  obtain ⟨own, type, value, enabled, children, childDef, info⟩ := node
  subst isList
  have resent : payloadValue (hydrateField wildcard key
      (some ⟨own, .array, value, enabled, children, childDef, info⟩)
      (.arr (payloadItems children))) =
      .arr ((Place.ofItem childDef).sentItems wildcard (payloadItems children)) :=
    congrArg Json.arr
      (payloadItems_hydrateItems wildcard childDef (payloadItems children) namesDistinct)
  have sent : payloadValue ⟨own, .array, value, enabled, children, childDef, info⟩ =
      .arr (payloadItems children) := rfl
  rw [SendsSame, sent, resent, Json.arr.injEq, Place.sentItems_eq_iff]
  rfl

theorem sendsSame_scalar {node : InstanceNode} (isScalar : node.shape = .scalar)
    (noneInside : node.children = []) (namesDistinct : (payloadValue node).NamesDistinct)
    (key : String) :
    node.SendsSame wildcard key ↔ node.keepsSent wildcard = true := by
  have nothingOff : ∀ field ∈ (Place.ofField (some node)).fields, field.AllEnabled := by
    intro field member
    have isInside : field ∈ node.children := member
    rw [noneInside] at isInside
    cases isInside
  have typeKept : (Place.ofField (some node)).type = node.type := by
    have scalarType : node.type.shape = .scalar := isScalar
    simp [Place.ofField, InstanceNode.scalarType, Option.filter, scalarType]
  obtain ⟨own, type, value, enabled, children, childDef, info⟩ := node
  have notObject : type ≠ .object := by
    rintro rfl
    cases isScalar
  subst noneInside
  rw [SendsSame, payloadValue_hydrateField wildcard key nothingOff _ namesDistinct,
    Place.sent_eq_iff, keepsSent, if_neg notObject]
  cases sent : payloadValue ⟨own, type, value, enabled, [], childDef, info⟩ with
  | str content =>
      have passed : type.cast (.str content) = .str content := by
        rw [payloadValue_of_scalar isScalar] at sent
        exact FieldType.cast_of_cast sent
      simp only [Place.keeps, typeKept, passed, decide_true]
  | _ => rfl

/-- A field that is rebuilt from what it sends. -/
theorem sendsSame_iff {node : InstanceNode} (wellFormed : node.WellFormed)
    (namesDistinct : (payloadValue node).NamesDistinct) (key : String) :
    node.SendsSame wildcard key ↔ node.keepsSent wildcard = true := by
  induction node using InstanceNode.induction generalizing key with
  | inside node inductionHypothesis =>
      cases shape : node.shape with
      | object =>
          exact sendsSame_object wildcard
            ((FieldType.shape_eq_object_iff node.type).mp shape)
            (wellFormed.holds.insideDistinct shape)
            (fun child member => inductionHypothesis child member (wellFormed.inside child member))
            namesDistinct key
      | list =>
          exact sendsSame_list wildcard ((FieldType.shape_eq_list_iff node.type).mp shape)
            namesDistinct key
      | scalar =>
          exact sendsSame_scalar wildcard shape (wellFormed.holds.noneInside shape)
            namesDistinct key

/-- All fields, rebuilt from the body that they are sent as. -/
theorem payload_rebuilt {nodes : List InstanceNode} (wellFormed : AllWellFormed nodes)
    (namesDistinct : (payload nodes).NamesDistinct) {members : List (String × Json)}
    (isPayload : payload nodes = .obj members) :
    payload (hydrateMembers wildcard nodes members) = .obj members ↔
      allKeepSent wildcard nodes = true := by
  -- The body is what an object with all the fields inside it sends.
  have root := (wellFormed_fresh "" .object).withChildren nofun (fun _ => wellFormed.1)
    wellFormed.2
  have rebuilt := sendsSame_iff wildcard root namesDistinct ""
  have sent : payloadValue { fresh "" .object with children := nodes } = .obj members := isPayload
  rw [SendsSame, sent] at rebuilt
  exact rebuilt

end

end InstanceNode

/-- A text that stands for what fields are sent as is applied to these fields. They are sent as before
exactly if what they send is kept. -/
theorem applyText_payload [PatternEngine] (options : CompileOptions) {nodes : List InstanceNode}
    (noFiles : InstanceNode.anyHasFiles nodes = false)
    (wellFormed : InstanceNode.AllWellFormed nodes) (notEmpty : payload nodes ≠ .obj [])
    {text : String} (read : Json.ofText? text = some (payload nodes)) :
    ∃ after, applyText options text nodes = .ok after ∧
      (payload after = payload nodes ↔
        InstanceNode.allKeepSent options.wildcard nodes = true) := by
  obtain ⟨members, isPayload⟩ : ∃ members, payload nodes = .obj members := ⟨_, rfl⟩
  have namesDistinct := Json.namesDistinct_of_ofText? read
  have someMember : members ≠ [] := by
    rwa [isPayload, ne_eq, Json.obj.injEq] at notEmpty
  refine ⟨InstanceNode.hydrateMembers options.wildcard nodes members, ?_, ?_⟩
  · rw [isPayload] at read
    exact applyText_of_noFiles options noFiles read someMember
  · have rebuilt :=
      InstanceNode.payload_rebuilt options.wildcard wellFormed namesDistinct isPayload
    rwa [isPayload]

/-- The body of a session without files, which was opened on nothing stored and edited in any way, is
read back from its own text, which is refused only if its brackets are too deep. Every text that is
read as the body can be applied. The fields are sent as before exactly if the body has no null, the
texts in its lists are left as they are by the types that the definition of the items gives them, and
no object in a list or in the value of a field has a member without a name. -/
theorem apply_own_body [PatternEngine] (rules : RuleSet)
    (compiling opening editing : CompileOptions)
    {store : Store} {key : String} (nothingStored : store.get? key = none) (edits : List Edit)
    {session : Session}
    (reached : (Session.start opening (rules.compile compiling) store key).run edits = session)
    (noFiles : InstanceNode.anyHasFiles session.nodes = false) {body : Json}
    (sent : session.payload = body) (notEmpty : body ≠ .obj [])
    (namesDistinct : body.NamesDistinct) (numbersRead : body.NumbersRead) :
    (body.depth ≤ Document.maximalDepth → Json.ofText? body.compact = some body) ∧
      (Document.maximalDepth < body.depth →
        applyText editing body.compact session.nodes = .error .invalidText) ∧
      ∀ text, Json.ofText? text = some body →
        ∃ after, applyText editing text session.nodes = .ok after ∧
          (payload after = body ↔
            InstanceNode.allKeepSent editing.wildcard session.nodes = true) := by
  have stored : store.WellFormedAt key := by
    intro state found
    rw [nothingStored] at found
    cases found
  have sound := Session.sound_run
    (Session.sound_start opening (RuleSet.allKeysDistinct_compile compiling rules) stored) edits
  rw [reached] at sound
  have read := Json.ofText?_compact numbersRead
  rw [Json.settled_of_namesDistinct _ namesDistinct] at read
  refine ⟨fun shallow => ?_, fun deep => ?_, fun text readText => ?_⟩
  · rwa [if_pos shallow] at read
  · rw [if_neg (Nat.not_le_of_lt deep)] at read
    rw [applyText, InstanceNode.firstFilePath?_eq_none session.nodes noFiles, read]
  · subst sent
    exact applyText_payload editing noFiles sound.wellFormed notEmpty readText

/-- The rules of a player with scores and an address. -/
def playerRules : RuleSet :=
  .ofList [("name", .text "string"), ("scores.*", .text "integer"),
    ("address.city", .text "string"), ("address.zip", .text "string")]

/-- A score is added and another one that is off, the postal code is off, and a field is new. -/
def playerEdits : List Edit :=
  [.setValue "name" (.str "Ada \"Q\""), .pushItem "scores", .setValue "scores.0" (.str "42"),
    .pushItem "scores", .setEnabled "scores.1" false, .setEnabled "address.zip" false,
    .addField "" "rate" .json, .setValue "rate" (.num (.int (-3)))]

def playerSession : Session :=
  (Session.start {} (playerRules.compile {}) {} "player").run playerEdits

def playerBody : Json :=
  .obj [("name", .str "Ada \"Q\""), ("scores", .arr [.num (.int 42)]),
    ("address", .obj [("city", .str "")]), ("rate", .num (.int (-3)))]

/-- The body of the player is sent as before. -/
theorem apply_own_body_player :
    InstanceNode.anyHasFiles playerSession.nodes = false ∧ playerSession.payload = playerBody ∧
      playerBody ≠ .obj [] ∧ playerBody.NamesDistinct ∧ playerBody.NumbersRead ∧
      Json.ofText? playerBody.compact = some playerBody ∧
      ∃ after, applyText {} playerBody.compact playerSession.nodes = .ok after ∧
        payload after = playerBody := by
  have nothingStored : ({} : Store).get? "player" = none := rfl
  have reached : (Session.start {} (playerRules.compile {}) {} "player").run playerEdits =
      playerSession := rfl
  have noFiles : InstanceNode.anyHasFiles playerSession.nodes = false := by decide +kernel
  have sent : playerSession.payload = playerBody := by decide +kernel
  have notEmpty : playerBody ≠ .obj [] := by decide
  have namesDistinct : playerBody.NamesDistinct := by decide
  have numbersRead : playerBody.NumbersRead := by
    simp [playerBody, Json.NumbersRead, Json.MemberNumbersRead, Json.ItemNumbersRead,
      Number.IsRead]
  have applies := apply_own_body playerRules {} {} {} nothingStored playerEdits reached noFiles
    sent notEmpty namesDistinct numbersRead
  have read := applies.1 (by decide)
  obtain ⟨after, applied, same⟩ := applies.2.2 playerBody.compact read
  have kept : InstanceNode.allKeepSent "*" playerSession.nodes = true := by decide +kernel
  exact ⟨noFiles, sent, notEmpty, namesDistinct, numbersRead, read, after, applied, same.mpr kept⟩

/-- What a session sends after its own body was applied to it as a text, unless this is refused. -/
def Session.resent? [PatternEngine] (session : Session) : Option Json :=
  (Formwork.applyText session.options session.payload.compact session.nodes).toOption.map
    Formwork.payload

/-- A session of scores, the first of which was made a text. -/
def scoreSession : Session :=
  (Session.start {} ((RuleSet.ofList [("scores.*", .text "integer")]).compile {}) {} "form").run
    [.pushItem "scores", .setType "scores.0" .text, .setValue "scores.0" (.str "42")]

/-- A session of one value, after an edit. -/
def valueSession [PatternEngine] (edit : Edit) : Session :=
  (Session.start {} ((RuleSet.ofList [("value", .text "json")]).compile {}) {} "form").run [edit]

/-- Its value is an object with a member that has no name. -/
def namelessSession : Session :=
  valueSession (.setValue "value" (.obj [("", .bool true)]))

/-- Its value is a small floating point number. -/
def decimalSession : Session :=
  valueSession (.applyText "\x7b\"value\":2.6314695940532365e-13\x7d")

/-- A text that spells a number does not stay a text among numbers, a member without a name is lost,
and some floating point numbers are not read back from the shortest text that stands for them. -/
theorem own_body_changes :
    (InstanceNode.anyHasFiles scoreSession.nodes = false ∧
        scoreSession.payload = .obj [("scores", .arr [.str "42"])] ∧
        scoreSession.resent? = some (.obj [("scores", .arr [.num (.int 42)])])) ∧
      (InstanceNode.anyHasFiles namelessSession.nodes = false ∧
        namelessSession.payload = .obj [("value", .obj [("", .bool true)])] ∧
        namelessSession.resent? = some (.obj [("value", .obj [])])) ∧
      InstanceNode.anyHasFiles decimalSession.nodes = false ∧
        decimalSession.payload.compact = "\x7b\"value\":2.6314695940532367e-13\x7d" ∧
        decimalSession.resent?.map Json.compact =
          some "\x7b\"value\":2.631469594053237e-13\x7d" := by
  decide +kernel

end Formwork
