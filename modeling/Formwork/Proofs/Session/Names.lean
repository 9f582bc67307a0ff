/-
This file shows which names are sent: only those that a schema, stored fields or edits bring along.
The wildcard is one of them exactly if a path names it as a field.
-/

import Formwork.Proofs.Instance.Initial
import Formwork.Proofs.Schema.Literal
import Formwork.Proofs.Session.Lifetime
import Formwork.SizedEngine

namespace Formwork

namespace FieldType

theorem eachName_freeValue (property : String → Prop) (type : FieldType) (content : String) :
    (type.freeValue content).EachName property := by
  rw [freeValue]
  split
  · trivial
  · split
    · trivial
    · rw [numberOrText]
      split <;> trivial

/-- Casting a value brings no name along. -/
theorem eachName_cast {property : String → Prop} (type : FieldType) {value : Json}
    (named : value.EachName property) : (type.cast value).EachName property := by
  have pinnedNamed : (pinnedValue value).EachName property := by
    cases value with
    | bool truth => cases truth <;> trivial
    | num _ => trivial
    | null => exact named
    | str _ => exact named
    | arr _ => exact named
    | obj _ => exact named
  rw [cast.eq_def]
  split
  · exact named
  · split
    · exact pinnedNamed
    · split
      · trivial
      · split
        · exact eachName_freeValue property type _
        · exact named

end FieldType

/-- Everything is allowed but a name. -/
def Allowance.without (name : String) : Allowance where
  key := (· ≠ name)
  type _ := True
  value := Json.EachName (· ≠ name)

variable {name : String}

theorem Allowance.basic_without (some : name ≠ "") : (without name).Basic where
  noKey := some.symm
  ownType _ _ := trivial
  scalar value isScalar := by
    cases value with
    | arr _ => cases isScalar
    | obj _ => cases isScalar
    | null => trivial
    | bool _ => trivial
    | num _ => trivial
    | str _ => trivial

namespace SchemaNode

theorem within_without_iff (node : SchemaNode) :
    node.Within (.without name) ↔ node.Everywhere (·.key ≠ name) := by
  have sameHolds : HoldsWithin (.without name) = fun node => node.key ≠ name := by
    funext node
    apply propext
    constructor
    · exact fun holds => holds.keyAllowed
    · exact fun differs => ⟨differs, trivial, fun _ _ => trivial⟩
  rw [Within, sameHolds]

theorem within_readBack {node : SchemaNode} (within : node.Within (.without name)) :
    (readBack node).Within (.without name) := by
  induction node using SchemaNode.induction with
  | inside node inductionHypothesis =>
      obtain ⟨holds, inside⟩ := (within_iff node).mp within
      rw [within_iff, children_readBack, List.forall_mem_map]
      constructor
      · refine ⟨?_, trivial, fun _ _ => trivial⟩
        rw [key_readBack]
        exact holds.keyAllowed
      · exact fun child member => inductionHypothesis child member (inside child member)

end SchemaNode

theorem ChildDef.within_readBack {childDef : ChildDef} (within : childDef.Within (.without name)) :
    childDef.readBack.Within (.without name) := by
  obtain ⟨type, _ | nodes⟩ := childDef
  · exact ⟨trivial, List.forall_mem_nil _⟩
  · refine ⟨trivial, ?_⟩
    rw [readBack, Option.map_some, Option.getD_some, List.forall_mem_map]
    exact fun node member => SchemaNode.within_readBack (within.2 node member)

namespace InstanceNode

/-- Storing a field and reading it back brings no name along. -/
theorem within_readBack_sanitized {node : InstanceNode} (within : node.Within (.without name)) :
    (readBack (sanitized node)).Within (.without name) := by
  induction node using InstanceNode.induction with
  | inside node inductionHypothesis =>
      obtain ⟨keyAllowed, -, valueAllowed, itemsAllowed⟩ := within.holds
      rw [within_iff, sanitized_eq, readBack_eq]
      refine ⟨⟨keyAllowed, trivial, ?_, ?_⟩, ?_⟩
      · apply Json.eachName_settled
        split
        · trivial
        · exact valueAllowed
      · intro childDef defines
        obtain ⟨written, isWritten, rfl⟩ := Option.map_eq_some_iff.mp defines
        exact ChildDef.within_readBack (itemsAllowed written isWritten)
      · simp only [AllWithin, List.forall_mem_map]
        exact fun child member => inductionHypothesis child member (within.inside child member)

theorem membersEachName_payloadMembers {nodes : List InstanceNode}
    (within : AllWithin (.without name) nodes)
    (each : ∀ node ∈ nodes, (payloadValue node).EachName (· ≠ name)) :
    Json.MembersEachName (· ≠ name) (payloadMembers nodes) := by
  rw [Json.membersEachName_iff, payloadMembers_eq_map, List.forall_mem_map]
  intro node sent
  have member := (List.mem_filter.mp sent).1
  exact ⟨(within node member).holds.keyAllowed, each node member⟩

theorem eachName_payloadValue {node : InstanceNode} (within : node.Within (.without name)) :
    (payloadValue node).EachName (· ≠ name) := by
  induction node using InstanceNode.induction with
  | inside node inductionHypothesis =>
      have inside (child) (member : child ∈ node.children) :=
        inductionHypothesis child member (within.inside child member)
      rw [payloadValue_eq]
      cases node.shape with
      | object =>
          exact Json.membersEachName_settle (membersEachName_payloadMembers within.inside inside)
      | list =>
          simp only [Json.EachName]
          rw [Json.itemsEachName_iff, payloadItems_eq_map, List.forall_mem_map]
          exact fun child sent => inside child (List.mem_filter.mp sent).1
      | scalar => exact node.type.eachName_cast within.holds.valueAllowed

end InstanceNode

/-- A name that the fields are made without is not sent. -/
theorem eachName_payload {nodes : List InstanceNode}
    (within : InstanceNode.AllWithin (.without name) nodes) :
    (payload nodes).EachName (· ≠ name) :=
  Json.membersEachName_settle (InstanceNode.membersEachName_payloadMembers within
    fun node member => InstanceNode.eachName_payloadValue (within node member))

/-- Fields stay without a name as long as schemas and edits are. -/
theorem Session.lasting_without [PatternEngine] (some : name ≠ "") :
    Lasting (SchemaNode.AllLack name) (Edit.Within (.without name))
      (InstanceNode.AllWithin (.without name)) where
  nothing := InstanceNode.allWithin_nil
  reconciled options schema nodes lacks within := by
    apply InstanceNode.within_reconcileFields (Allowance.basic_without some) _ _ within
    exact fun node member => node.within_without_iff.mpr (lacks node member)
  edited lacks within editWithin applied := by
    apply Edit.allWithin_of_apply (Allowance.basic_without some) _ within editWithin applied
    exact fun node member => node.within_without_iff.mpr (lacks node member)
  readBack within := by
    rw [InstanceNode.sanitizedAll_eq_map, List.map_map, InstanceNode.AllWithin, List.forall_mem_map]
    exact fun node member => InstanceNode.within_readBack_sanitized (within node member)

/-- The wildcard is the key of a node at some level exactly if a path names it as a field. As long as
no schema has such a node, the wildcard is never sent as a name, unless stored fields or edits bring
it along. -/
theorem wildcard_named_iff [PatternEngine] (options : CompileOptions)
    (proper : options.wildcard ≠ "") :
    (∀ rules : RuleSet,
        SchemaNode.AllLack options.wildcard (rules.compile options) ↔
          ¬PathTree.NamesField options.wildcard rules.entries.names options.wildcard) ∧
      (∀ parameters : List ManualParam,
        SchemaNode.AllLack options.wildcard (compileManual options parameters) ↔
          ¬PathTree.NamesField options.wildcard (parameters.map (·.key)) options.wildcard) ∧
      ∀ (opening : CompileOptions) (schema : List SchemaNode) (store : Store) (key : String)
        (actions : List Session.Action) (body : Json),
        SchemaNode.AllLack options.wildcard schema →
        store.ReadsAt (InstanceNode.AllWithin (.without options.wildcard)) key →
        (∀ action ∈ actions, action.Good (SchemaNode.AllLack options.wildcard)
          (Edit.Within (.without options.wildcard))) →
        ((Session.start opening schema store key).follow actions).payload = body →
          body.EachName (· ≠ options.wildcard) := by
  refine ⟨fun rules => rules.allLack_compile_iff options _,
    fun parameters => allLack_compileManual_iff options parameters _, ?_⟩
  rintro opening schema store key actions _ lacks stored actionsGood rfl
  have lasting := Session.lasting_without proper
  have upholds := lasting.upholds_follow (lasting.upholds_start opening lacks stored) actionsGood
  exact eachName_payload upholds.nodes

/-- A grid of rows, and a text at the start of a path. -/
def gridRules : RuleSet :=
  .ofList [("grid.*.*", .text "integer"), ("*", .text "string")]

/-- The rows of the grid are objects with a field of the wildcard, and the wildcard at the start of a
path is a field, which is sent. -/
theorem wildcard_compiled_as_field :
    (gridRules.compile {}).map
          (fun node => (node.key, node.info.isList, node.children.map (·.key))) =
        [("grid", true, ["*"]), ("*", false, [])] ∧
      ¬SchemaNode.AllLack "*" (gridRules.compile {}) ∧
      ¬(payload (reconcile {} (gridRules.compile {}) [])).EachName (· ≠ "*") := by
  refine ⟨by decide +kernel, by decide +kernel, ?_⟩
  have sent : payload (reconcile {} (gridRules.compile {}) []) =
      .obj [("grid", .arr []), ("*", .str "")] := by decide +kernel
  rw [sent]
  simp [Json.EachName, Json.MembersEachName]

/-- The rules of a list of songs: wildcards come behind keys alone, and the template holds more than
the wildcard. -/
def songRules : RuleSet :=
  .ofList
    [("songs.*.title", .text "required"), ("songs.*.tags.*", .text "string"),
      ("names.lang_*", .text "string")]

/-- A song is added, a language gets a name, and the songs are read from a text and back. -/
def songActions : List Session.Action :=
  [.edit (.pushItem "songs"), .edit (.setValue "songs.0.title" (.str "Air")),
    .edit (.addField "names" "lang_de" .text),
    .edit (.applyText "\x7b\"songs\": [\x7b\"title\": \"Air\"\x7d]\x7d"),
    .reopen {} (songRules.compile {})]

/-- What is sent for the songs in the end. -/
def songBody : Json :=
  .obj [("songs", .arr [.obj [("title", .str "Air")]])]

/-- No node of the songs has the wildcard as its key, and nothing is sent under it. -/
theorem wildcard_named_iff_songs :
    SchemaNode.AllLack "*" (songRules.compile {}) ∧
      ((Session.start {} (songRules.compile {}) {} "songs").follow songActions).payload = songBody ∧
      songBody.EachName (· ≠ "*") := by
  have named := wildcard_named_iff {} (by decide : CompileOptions.wildcard {} ≠ "")
  have lacks : SchemaNode.AllLack "*" (songRules.compile {}) := by
    apply (named.1 songRules).mpr
    exact PathTree.not_namesField_wildcard (by decide +kernel)
  have stored : Store.ReadsAt (InstanceNode.AllWithin (.without "*")) {} "songs" := by
    intro state found
    cases found
  have sent : ((Session.start {} (songRules.compile {}) {} "songs").follow songActions).payload =
      songBody := by decide +kernel
  have read : Json.ofText? "\x7b\"songs\": [\x7b\"title\": \"Air\"\x7d]\x7d" = some songBody := by
    decide +kernel
  refine ⟨lacks, sent, named.2.2 {} _ {} "songs" songActions songBody lacks stored ?_ sent⟩
  simp only [songActions, List.forall_mem_cons]
  have languageNamed : "lang_de" ≠ "*" := by decide
  refine ⟨trivial, trivial, ⟨languageNamed, trivial⟩, fun value isRead => ?_, lacks,
    List.forall_mem_nil _⟩
  obtain rfl := Option.some.inj (read.symm.trans isRead)
  have songsNamed : "songs" ≠ "*" := by decide
  have titleNamed : "title" ≠ "*" := by decide
  exact ⟨songsNamed, ⟨⟨titleNamed, trivial, trivial⟩, trivial⟩, trivial⟩

end Formwork
