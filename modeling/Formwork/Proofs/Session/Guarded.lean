/-
This file shows that the edit of a body as text is refused because of a file exactly if one is
attached, and that the path in the refusal leads to the first one.
-/

import Formwork.Proofs.Instance.Addressed
import Formwork.Proofs.Instance.Joined
import Formwork.Proofs.Instance.WellFormed
import Formwork.Proofs.Session.Attached
import Formwork.SizedEngine

namespace Formwork

namespace InstanceNode

mutual

/-- The field and all fields inside it, each of them before what is inside it. -/
def preorder : InstanceNode → List InstanceNode
  | ⟨key, type, value, enabled, children, childDef, info⟩ =>
      ⟨key, type, value, enabled, children, childDef, info⟩ :: preorderAll children

def preorderAll : List InstanceNode → List InstanceNode
  | [] => []
  | node :: rest => preorder node ++ preorderAll rest

end

/-- The first field that a file is attached to. -/
def firstFile? (nodes : List InstanceNode) : Option InstanceNode :=
  (preorderAll nodes).find? holdsFile

theorem firstFile?_cons (node : InstanceNode) (rest : List InstanceNode) :
    firstFile? (node :: rest) =
      if node.holdsFile then some node else (firstFile? node.children).or (firstFile? rest) := by
  obtain ⟨key, type, value, enabled, children, childDef, info⟩ := node
  rw [firstFile?, preorderAll, preorder, List.cons_append, List.find?_cons, List.find?_append]
  cases holdsFile ⟨key, type, value, enabled, children, childDef, info⟩ <;> rfl

mutual

theorem any_preorder : (node : InstanceNode) → (preorder node).any holdsFile = node.hasFiles
  | ⟨key, type, value, enabled, children, childDef, info⟩ => by
      rw [preorder, List.any_cons, any_preorderAll children]
      rfl

theorem any_preorderAll :
    (nodes : List InstanceNode) → (preorderAll nodes).any holdsFile = anyHasFiles nodes
  | [] => rfl
  | node :: rest => by
      rw [preorderAll, List.any_append, any_preorder node, any_preorderAll rest, anyHasFiles]

end

/-- There is a first file exactly if there is any. -/
theorem isSome_firstFile? (nodes : List InstanceNode) :
    (firstFile? nodes).isSome = anyHasFiles nodes := by
  rw [firstFile?, Bool.eq_iff_iff, List.find?_isSome, ← List.any_eq_true, any_preorderAll]

/-- Items of a list have no keys. All other siblings have distinct keys, each of them one segment of
a path. -/
def SiblingsAddressable (inList : Bool) (nodes : List InstanceNode) : Prop :=
  if inList then ∀ node ∈ nodes, node.key = ""
  else SiblingsDistinct nodes ∧ ∀ node ∈ nodes, node.key ≠ "" ∧ '.' ∉ node.key.toList

instance (inList : Bool) (nodes : List InstanceNode) :
    Decidable (SiblingsAddressable inList nodes) :=
  inferInstanceAs (Decidable (if inList then _ else _))

/-- On every level inside the field the siblings are addressable. -/
def Addressable : InstanceNode → Prop :=
  Everywhere fun node => SiblingsAddressable (node.type == .array) node.children

instance : DecidablePred Addressable :=
  inferInstanceAs (DecidablePred (Everywhere _))

/-- Fields at the top and on every level inside them that are addressable. -/
def AllAddressable (nodes : List InstanceNode) : Prop :=
  SiblingsAddressable false nodes ∧ ∀ node ∈ nodes, node.Addressable

instance (nodes : List InstanceNode) : Decidable (AllAddressable nodes) :=
  inferInstanceAs (Decidable (_ ∧ _))

section

variable {inList : Bool} {before after : List InstanceNode} {node : InstanceNode}
  (addressable : SiblingsAddressable inList (before ++ node :: after))
include addressable

/-- The name of a field among its siblings is one segment, and not empty. -/
theorem segment_undotted :
    '.' ∉ (node.segment before.length).toList ∧ node.segment before.length ≠ "" := by
  have among : node ∈ before ++ node :: after := by simp
  rw [segment]
  by_cases keyless : node.key.isEmpty = true
  · rw [if_pos keyless]
    exact ⟨Path.undotted_repr before.length, by simp⟩
  · rw [if_neg keyless]
    cases inList with
    | true => exact absurd (addressable node among) (by simpa using keyless)
    | false => exact ⟨(addressable.2 node among).2, (addressable.2 node among).1⟩

/-- A field is found by its name among its siblings. -/
theorem named?_segment :
    Path.named? inList (before ++ node :: after) (node.segment before.length) = some node := by
  have among : node ∈ before ++ node :: after := by simp
  rw [segment, Path.named?, Path.position?]
  cases inList with
  | true =>
      have keyless : node.key = "" := addressable node among
      have counted : Path.index? (String.ofList (Nat.toDigits 10 before.length)) =
          some before.length := Path.index?_repr before.length
      simp [keyless, counted]
  | false =>
      have named := (addressable.2 node among).1
      have found := find?_name_of_mem addressable.1 among
      rw [List.find?_eq_map_findFinIdx?_getElem] at found
      simpa [named] using found

end

end InstanceNode

namespace Path

/-- The segments of a path that all other segments stand behind. -/
def segmentsInto (path : String) : List (List Char) :=
  if path.isEmpty then [] else segments path

theorem segments_join (parent : String) {key : String} (undotted : '.' ∉ key.toList) :
    segments (join parent key) = segmentsInto parent ++ [key.toList] := by
  have single : segments key = [key.toList] := Text.pieces_of_not_mem undotted
  rw [join, segmentsInto]
  by_cases top : parent.isEmpty = true
  · rw [if_pos top, if_pos top, single, List.nil_append]
  · rw [if_neg top, if_neg top, ← single]
    simp [segments, Text.pieces_separated]

theorem segmentsInto_join (parent : String) {key : String} (undotted : '.' ∉ key.toList)
    (nonempty : key ≠ "") :
    segmentsInto (join parent key) = segmentsInto parent ++ [key.toList] := by
  have someText : (join parent key).isEmpty = false := by
    rw [join]
    split <;> simp [nonempty]
  rw [segmentsInto, someText, if_neg Bool.false_ne_true, segments_join parent undotted]

/-- Behind the segments `walked` a path leads to a field of a level or inside it. -/
def LeadsTo (path : String) (walked : List (List Char)) (inList : Bool) (nodes : List InstanceNode)
    (node : InstanceNode) : Prop :=
  ∃ rest, rest ≠ [] ∧ segments path = walked ++ rest ∧ follow? inList nodes rest = some node

end Path

namespace InstanceNode

open Formwork.Path

theorem filePath?_eq (path : String) (node : InstanceNode) :
    filePath? path node =
      if node.holdsFile then some path else firstFilePath? path 0 node.children := by
  cases node
  rfl

mutual

theorem leadsTo_filePath? : (node : InstanceNode) → node.Addressable → node.holdsFile = false →
    ∀ {path found : String}, filePath? path node = some found →
      ∃ file, firstFile? node.children = some file ∧
        LeadsTo found (segmentsInto path) (node.type == .array) node.children file
  | ⟨_, _, _, _, children, _, _⟩, addressable, noFile, path, found, isFound => by
      obtain ⟨siblings, inside⟩ := (everywhere_iff _).mp addressable
      rw [filePath?_eq, noFile, if_neg Bool.false_ne_true] at isFound
      exact leadsTo_firstFilePath? children [] siblings inside isFound

/-- The path of the first file among siblings leads to it. The siblings `before` them have been
passed, and the place of an item counts them. -/
theorem leadsTo_firstFilePath? : (nodes before : List InstanceNode) → {inList : Bool} →
    SiblingsAddressable inList (before ++ nodes) → (∀ node ∈ nodes, node.Addressable) →
    ∀ {parent found : String}, firstFilePath? parent before.length nodes = some found →
      ∃ file, firstFile? nodes = some file ∧
        LeadsTo found (segmentsInto parent) inList (before ++ nodes) file
  | [], _, _, _, _, _, _, isFound => by cases isFound
  | node :: rest, before, inList, siblings, addressable, parent, found, isFound => by
      rw [List.forall_mem_cons] at addressable
      obtain ⟨undotted, nonempty⟩ := segment_undotted siblings
      have named : named? inList (before ++ node :: rest)
          (String.ofList (node.segment before.length).toList) = some node := by
        rw [String.ofList_toList]
        exact named?_segment siblings
      have walked := segmentsInto_join parent undotted nonempty
      rw [firstFilePath?, Option.orElse_eq_orElse, Option.orElse_eq_or, Option.or_eq_some_iff]
        at isFound
      rw [firstFile?_cons]
      cases here : node.holdsFile with
      | true =>
          -- the path ends at the field itself
          rw [filePath?_eq, here] at isFound
          obtain rfl : join parent (node.segment before.length) = found := by simpa using isFound
          exact ⟨node, rfl, _, List.cons_ne_nil _ _, segments_join parent undotted, named⟩
      | false =>
          rcases isFound with inside | ⟨noneInside, later⟩
          · -- the path goes on inside the field
            obtain ⟨file, isFirst, behind, more, isPath, leads⟩ :=
              leadsTo_filePath? node addressable.1 here inside
            rw [walked, List.append_assoc] at isPath
            refine ⟨file, by simp [isFirst], _, List.cons_ne_nil _ behind, isPath, ?_⟩
            rw [follow?_cons _ _ _ more, named]
            exact leads
          · -- the field is passed
            have noFile : anyHasFiles node.children = false := by
              rw [filePath?_eq, here, if_neg Bool.false_ne_true] at noneInside
              rw [← isSome_firstFilePath? node.children, noneInside]
              rfl
            have noFirst : firstFile? node.children = none := by
              rw [← Option.not_isSome_iff_eq_none, isSome_firstFile?, noFile]
              exact Bool.false_ne_true
            have appended : before ++ node :: rest = (before ++ [node]) ++ rest := by simp
            have isLater : firstFilePath? parent (before ++ [node]).length rest = some found := by
              rw [List.length_append, List.length_singleton, later]
            rw [appended] at siblings ⊢
            obtain ⟨file, isFirst, leads⟩ :=
              leadsTo_firstFilePath? rest (before ++ [node]) siblings addressable.2 isLater
            exact ⟨file, by simp [noFirst, isFirst], leads⟩

end

end InstanceNode

/-- The edit of a body is refused because of a file exactly if one is attached, whatever the text
is. Where all fields are addressable, reading the path that the refusal names finds the first of the
fields with a file. -/
theorem fileGuard_exact [PatternEngine] (options : CompileOptions) (text : String)
    (session : Session) :
    ((∃ path, applyText options text session.nodes = .error (.fileGuard path)) ↔
        InstanceNode.anyHasFiles session.nodes = true) ∧
      (InstanceNode.AllAddressable session.nodes →
        ∀ path, applyText options text session.nodes = .error (.fileGuard path) →
          ∃ file, session.node? path = some file ∧
            (InstanceNode.preorderAll session.nodes).find? (·.holdsFile) = some file) := by
  constructor
  · simp only [applyText_eq_fileGuard_iff]
    rw [← Option.isSome_iff_exists, InstanceNode.isSome_firstFilePath?]
  · intro addressable path refused
    obtain ⟨file, isFirst, rest, _, isPath, leads⟩ :=
      InstanceNode.leadsTo_firstFilePath? session.nodes [] addressable.1 addressable.2
        (applyText_eq_fileGuard_iff.mp refused)
    refine ⟨file, ?_, isFirst⟩
    rw [Session.node?, Path.node?, isPath]
    exact leads

/-- A session of a folder: a list of pages, one of them with a scan in it, and a cover. -/
def folderSession : Session where
  options := {}
  key := "folder"
  schema := []
  nodes :=
    [{ InstanceNode.fresh "folder" .object with
        children :=
          [{ InstanceNode.fresh "pages" .array with
              children :=
                [.fresh "" .file,
                  { InstanceNode.fresh "" .object with
                    children :=
                      [.fresh "note" .text,
                        { InstanceNode.fresh "scan" .file with value := .str "page.pdf" }] }] },
            { InstanceNode.fresh "cover" .file with value := .str "cover.png" }] }]
  store := {}

/-- The scan stands before the cover, and behind a page without a file. -/
theorem fileGuard_exact_folder :
    InstanceNode.AllAddressable folderSession.nodes ∧
      applyText {} "\x7b\x7d" folderSession.nodes = .error (.fileGuard "folder.pages.1.scan") ∧
      folderSession.node? "folder.pages.1.scan" =
        some { InstanceNode.fresh "scan" .file with value := .str "page.pdf" } := by
  have addressable : InstanceNode.AllAddressable folderSession.nodes := by decide
  have refused : applyText {} "\x7b\x7d" folderSession.nodes =
      .error (.fileGuard "folder.pages.1.scan") :=
    applyText_eq_fileGuard_iff.mpr (by decide)
  have isFirst : (InstanceNode.preorderAll folderSession.nodes).find? (·.holdsFile) =
      some { InstanceNode.fresh "scan" .file with value := .str "page.pdf" } := by decide
  obtain ⟨file, found, first⟩ :=
    (fileGuard_exact {} "\x7b\x7d" folderSession).2 addressable _ refused
  exact ⟨addressable, refused, found.trans (first.symm.trans isFirst)⟩

end Formwork
