/-
This file shows what is read from stored fields: the fields themselves, as far as their types are
the ones that their names stand for.
-/

import Formwork.Proofs.Codec.Schema
import Formwork.Proofs.Instance.Levels

namespace Formwork

namespace ChildDef

/-- What is read from a written definition of items. -/
def readBack (childDef : ChildDef) : ChildDef :=
  ⟨childDef.type.readBack, childDef.schema.map (·.map SchemaNode.readBack)⟩

theorem ofDocument?_toJson (childDef : ChildDef) :
    ofDocument? childDef.toJson.document = some childDef.readBack := by
  obtain ⟨type, schema⟩ := childDef
  have distinct : (Entries.names (("type", type.toJson) ::
      Json.optionalMember "schema" (fun nodes => .arr (SchemaNode.nodesToJson nodes))
        schema)).Nodup := by
    cases schema <;> simp [Entries.names, Json.optionalMember]
  have schemaRead := Document.orElse_nullable?_map SchemaNode.listOfDocument?_nodesToJson (by simp)
    schema
  rw [toJson, Json.document, ofDocument?, Document.record?_memberDocuments names distinct]
  simp [Entries.find?, Json.find?_optionalMember, FieldType.ofDocument?_toJson, readBack,
    schemaRead]

end ChildDef

namespace InstanceNode

mutual

/-- What is read from a written field. -/
def readBack : InstanceNode → InstanceNode
  | ⟨key, type, value, enabled, children, childDef, _⟩ =>
      ⟨key, type.readBack, value.settled, enabled, readBackAll children,
        childDef.map ChildDef.readBack, none⟩

def readBackAll : List InstanceNode → List InstanceNode
  | [] => []
  | node :: rest => readBack node :: readBackAll rest

end

theorem readBackAll_eq_map (nodes : List InstanceNode) : readBackAll nodes = nodes.map readBack := by
  induction nodes with
  | nil => rfl
  | cons node rest inductionHypothesis => rw [readBackAll, inductionHypothesis, List.map_cons]

theorem childrenMember?_memberDocuments (members : List (String × Json)) :
    childrenMember? (Json.memberDocuments members) =
      match Entries.find? "children" members with
      | none => some []
      | some value => children? value.document := by
  induction members with
  | nil => rfl
  | cons member rest inductionHypothesis =>
      obtain ⟨name, value⟩ := member
      by_cases here : name = "children" <;>
        simp [Json.memberDocuments, childrenMember?, Entries.find?, here, inductionHypothesis]

theorem ofDocuments?_map {nodes : List InstanceNode}
    (law : ∀ node ∈ nodes, ofDocument? node.toJson.document = some node.readBack) :
    ofDocuments? (Json.itemDocuments (nodes.map toJson)) = some (nodes.map readBack) := by
  induction nodes with
  | nil => rfl
  | cons node rest inductionHypothesis =>
      rw [List.forall_mem_cons] at law
      rw [List.map_cons, Json.itemDocuments, ofDocuments?, law.1, inductionHypothesis law.2]
      rfl

/-- A written field is read as the field with types by their names and settled values. -/
theorem ofDocument?_toJson (node : InstanceNode) :
    ofDocument? node.toJson.document = some node.readBack := by
  induction node using InstanceNode.induction with
  | inside node inductionHypothesis =>
      obtain ⟨key, type, value, enabled, children, childDef, info⟩ := node
      have distinct : (Entries.names ([("key", .str key), ("type", type.toJson), ("value", value),
          ("enabled", .bool enabled), ("children", .arr (nodesToJson children))] ++
          Json.optionalMember "childDef" ChildDef.toJson childDef)).Nodup := by
        cases childDef <;> simp [Entries.names, Json.optionalMember]
      have childDefRead := Document.orElse_nullable?_map ChildDef.ofDocument?_toJson
        (by simp [ChildDef.toJson]) childDef
      have childrenRead :
          children? (Json.arr (nodesToJson children)).document = some (readBackAll children) := by
        rw [nodesToJson_eq_map, readBackAll_eq_map]
        exact ofDocuments?_map inductionHypothesis
      rw [toJson, Json.document, ofDocument?, headOfDocument?,
        Document.record?_memberDocuments names distinct, childrenMember?_memberDocuments]
      simp [Entries.find?, Json.find?_optionalMember, FieldType.ofDocument?_toJson,
        Json.value?_document, childDefRead, childrenRead, readBack]

end InstanceNode

namespace SavedState

/-- What is read from stored fields. -/
theorem nodes_ofNodes (fields : List InstanceNode) :
    nodes (ofNodes fields) = .ok ((InstanceNode.sanitizedAll fields).map InstanceNode.readBack) := by
  rw [ofNodes, nodes, InstanceNode.nodesToJson_eq_map]
  simp only [InstanceNode.ofDocuments?_map fun node _ => InstanceNode.ofDocument?_toJson node]

end SavedState

end Formwork
