/-
This file shows when the edit of a body as text attaches a file: exactly if it puts a text that is not
empty where the fields that were there before, or the definition of their items, make it a file.
-/

import Formwork.Proofs.Instance.Detached
import Formwork.Proofs.Instance.RoundTrip
import Formwork.Proofs.Session.Within
import Formwork.SizedEngine

namespace Formwork

namespace Place

section

variable [PatternEngine] (wildcard : String)

mutual

/-- Whether a value holds a text that becomes a file at its place. -/
def attaches (place : Place) : Json → Bool
  | .str content => place.type == .file && !content.isEmpty
  | .arr items => attachesItems (ofItem place.items) items
  | .obj members => attachesMembers place.fields members
  | _ => false

def attachesItems (place : Place) : List Json → Bool
  | [] => false
  | item :: rest => attaches place item || attachesItems place rest

/-- The same for the members of an object next to the fields that were there before. -/
def attachesMembers (existing : List InstanceNode) : List (String × Json) → Bool
  | [] => false
  | (name, value) :: rest =>
      attaches (ofField (InstanceNode.matching? wildcard existing name)) value ||
        attachesMembers existing rest

end

end

end Place

namespace InstanceNode

section

variable [PatternEngine] (wildcard : String)

mutual

theorem hasFiles_hydrateField (key : String) (existing : Option InstanceNode) :
    (value : Json) →
      (hydrateField wildcard key existing value).hasFiles =
        (Place.ofField existing).attaches wildcard value
  | .null => rfl
  | .bool _ => rfl
  | .num _ => rfl
  | .str _ => Bool.or_false _
  | .arr items => anyHasFiles_hydrateItems (existing.bind (·.childDef)) items
  | .obj members => anyHasFiles_hydrateMembers (Place.ofField existing).fields members

theorem hasFiles_hydrateItem (childDef : Option ChildDef) :
    (value : Json) →
      (hydrateItem wildcard childDef value).hasFiles = (Place.ofItem childDef).attaches wildcard value
  | .null => rfl
  | .bool _ => rfl
  | .num _ => rfl
  | .str _ => Bool.or_false _
  | .arr items => anyHasFiles_hydrateItems none items
  | .obj members => anyHasFiles_hydrateMembers (itemFields childDef) members

theorem anyHasFiles_hydrateItems (childDef : Option ChildDef) :
    (items : List Json) →
      anyHasFiles (hydrateItems wildcard childDef items) =
        (Place.ofItem childDef).attachesItems wildcard items
  | [] => rfl
  | item :: rest => by
      rw [hydrateItems, anyHasFiles, hasFiles_hydrateItem childDef item,
        anyHasFiles_hydrateItems childDef rest]
      rfl

/-- The fields that are rebuilt from an object hold a file exactly if a text of the object becomes
one. -/
theorem anyHasFiles_hydrateMembers (existing : List InstanceNode) :
    (members : List (String × Json)) →
      anyHasFiles (hydrateMembers wildcard existing members) =
        Place.attachesMembers wildcard existing members
  | [] => rfl
  | (name, value) :: rest => by
      rw [hydrateMembers, anyHasFiles,
        hasFiles_hydrateField name (matching? wildcard existing name) value,
        anyHasFiles_hydrateMembers existing rest]
      rfl

end

end

mutual

theorem isSome_filePath? : (node : InstanceNode) → (path : String) →
    (filePath? path node).isSome = node.hasFiles
  | ⟨key, type, value, enabled, children, childDef, info⟩, path => by
      rw [filePath?, hasFiles]
      cases type == .file && !isEmptyValue value with
      | true => rfl
      | false => exact isSome_firstFilePath? children path 0

/-- A file has a path, wherever it is attached. -/
theorem isSome_firstFilePath? : (nodes : List InstanceNode) → (parent : String) → (index : Nat) →
    (firstFilePath? parent index nodes).isSome = anyHasFiles nodes
  | [], _, _ => rfl
  | node :: rest, parent, index => by
      rw [firstFilePath?, anyHasFiles, Option.orElse_eq_orElse, Option.orElse_eq_or,
        Option.isSome_or, isSome_filePath? node, isSome_firstFilePath? rest]

end

theorem firstFilePath?_eq_none (nodes : List InstanceNode) (noFiles : anyHasFiles nodes = false)
    (parent : String) (index : Nat) : firstFilePath? parent index nodes = none := by
  rw [← Option.not_isSome_iff_eq_none, isSome_firstFilePath?, noFiles]
  exact Bool.false_ne_true

theorem anyHasFiles_map {f : InstanceNode → InstanceNode} {nodes : List InstanceNode}
    (same : ∀ node ∈ nodes, (f node).hasFiles = node.hasFiles) :
    anyHasFiles (nodes.map f) = anyHasFiles nodes := by
  rw [Bool.eq_iff_iff, anyHasFiles_eq_any, anyHasFiles_eq_any, List.any_map, List.any_eq_true,
    List.any_eq_true]
  refine exists_congr fun node => and_congr_right fun member => ?_
  rw [Function.comp_apply, same node member]

theorem hasFiles_detached (node : InstanceNode) : (detached node).hasFiles = node.hasFiles := by
  induction node using InstanceNode.induction with
  | inside node inductionHypothesis =>
      have sameInside : anyHasFiles (detachedAll node.children) = anyHasFiles node.children := by
        rw [detachedAll_eq_map]
        exact anyHasFiles_map inductionHypothesis
      cases node
      rw [detached, hasFiles, hasFiles, sameInside]

theorem sanitized_of_noFiles {node : InstanceNode} (noFiles : node.hasFiles = false) :
    sanitized node = detached node := by
  induction node using InstanceNode.induction with
  | inside node inductionHypothesis =>
      obtain ⟨noneHere, noneInside⟩ := (hasFiles_eq_false_iff node).mp noFiles
      have sameInside : node.children.map sanitized = node.children.map detached :=
        List.map_congr_left fun child member =>
          inductionHypothesis child member (noneInside child member)
      rw [sanitized_eq, detached_eq, noneHere, sameInside]
      rfl

/-- Saving erases no value exactly if no file is attached. -/
theorem sanitizedAll_eq_detachedAll_iff (nodes : List InstanceNode) :
    sanitizedAll nodes = detachedAll nodes ↔ anyHasFiles nodes = false := by
  constructor
  · intro same
    have noFiles := anyHasFiles_sanitizedAll nodes
    rwa [same, detachedAll_eq_map, anyHasFiles_map fun node _ => hasFiles_detached node]
      at noFiles
  · intro noFiles
    rw [anyHasFiles_eq_any, List.any_eq_false] at noFiles
    rw [sanitizedAll_eq_map, detachedAll_eq_map]
    exact List.map_congr_left fun node member =>
      sanitized_of_noFiles (Bool.eq_false_iff.mpr (noFiles node member))

end InstanceNode

/-- Fields and items of every type but a file. -/
def Allowance.noFileType : Allowance where
  key _ := True
  type type := type ≠ .file
  value _ := True

theorem Allowance.basic_noFileType : noFileType.Basic where
  noKey := trivial
  ownType := by simp [noFileType]
  scalar _ _ := trivial

namespace InstanceNode

/-- Where no field is a file none is attached. -/
theorem hasFiles_of_within {node : InstanceNode} (within : node.Within .noFileType) :
    node.hasFiles = false := by
  induction node using InstanceNode.induction with
  | inside node inductionHypothesis =>
      rw [hasFiles_eq_false_iff]
      refine ⟨?_, fun child member => inductionHypothesis child member (within.inside child member)⟩
      have noFile : node.type ≠ .file := within.holds.typeAllowed
      simp [holdsFile, noFile]

end InstanceNode

section

variable [PatternEngine]

theorem applyText_eq_fileGuard_iff {options : CompileOptions} {text path : String}
    {existing : List InstanceNode} :
    applyText options text existing = .error (.fileGuard path) ↔
      InstanceNode.firstFilePath? "" 0 existing = some path := by
  rw [applyText]
  cases InstanceNode.firstFilePath? "" 0 existing with
  | some found => simp
  | none =>
      -- Behind the guard every refusal has another reason.
      simp only [reduceCtorEq, iff_false]
      intro refused
      split at refused
      · cases refused
      · split at refused <;> cases refused
      · cases refused

/-- The text of an object with members is applied where no file is attached. -/
theorem applyText_of_noFiles (options : CompileOptions) {text : String}
    {existing : List InstanceNode} (noFiles : InstanceNode.anyHasFiles existing = false)
    {members : List (String × Json)} (read : Json.ofText? text = some (.obj members))
    (notEmpty : members ≠ []) :
    applyText options text existing =
      .ok (InstanceNode.hydrateMembers options.wildcard existing members) := by
  rw [applyText, InstanceNode.firstFilePath?_eq_none existing noFiles, read]
  simp [notEmpty]

/-- An edit of the body attaches a file exactly if it puts a text that is not empty where there is a
file, among the fields that were there before or in the definition of their items. Exactly then every
next edit of the body is refused because of a file, and saving the fields erases a value. No edit
attaches a file where no field and no item was to be one. -/
theorem edit_attaches_iff {options : CompileOptions} {text : String}
    {existing after : List InstanceNode} (edited : applyText options text existing = .ok after) :
    ∃ members, Json.ofText? text = some (.obj members) ∧
      (InstanceNode.anyHasFiles after = true ↔
        Place.attachesMembers options.wildcard existing members = true) ∧
      (∀ next, (∃ path, applyText options next after = .error (.fileGuard path)) ↔
        Place.attachesMembers options.wildcard existing members = true) ∧
      (InstanceNode.sanitizedAll after ≠ InstanceNode.detachedAll after ↔
        Place.attachesMembers options.wildcard existing members = true) ∧
      (InstanceNode.AllWithin .noFileType existing →
        Place.attachesMembers options.wildcard existing members = false) := by
  obtain ⟨members, read, rfl⟩ := eq_of_applyText edited
  have attached := InstanceNode.anyHasFiles_hydrateMembers options.wildcard existing members
  refine ⟨members, read, by rw [attached], fun next => ?_, ?_, fun within => ?_⟩
  · simp only [applyText_eq_fileGuard_iff]
    rw [← Option.isSome_iff_exists, InstanceNode.isSome_firstFilePath?, attached]
  · rw [Ne, InstanceNode.sanitizedAll_eq_detachedAll_iff, attached, Bool.not_eq_false]
  · have named : Json.MembersEachName (fun _ => True) members :=
      Json.membersEachName_of_forall (fun _ => trivial) members
    have within := InstanceNode.within_hydrateMembers options.wildcard Allowance.basic_noFileType
      within members named
    rw [← attached, InstanceNode.anyHasFiles_eq_any, List.any_eq_false]
    intro node member
    rw [InstanceNode.hasFiles_of_within (within node member)]
    exact Bool.false_ne_true

end

/-- A form with a picture, which is a file. -/
def pictureForm : List InstanceNode :=
  [.fresh "name" .text, .fresh "avatar" .file]

/-- The form with a name and the value of its picture. -/
def filledForm (name picture : String) : List InstanceNode :=
  [{ InstanceNode.fresh "name" .text with value := .str name },
    { InstanceNode.fresh "avatar" .file with value := .str picture }]

/-- The name of a file is no file as the value of another field. -/
def nameText : String :=
  "\x7b\"name\":\"me.png\",\"avatar\":\"\"\x7d"

/-- A body that attaches no file can be edited again, and is saved with all its values. -/
theorem edit_attaches_iff_name :
    applyText {} nameText pictureForm = .ok (filledForm "me.png" "") ∧
      InstanceNode.anyHasFiles (filledForm "me.png" "") = false ∧
      (∀ next path, applyText {} next (filledForm "me.png" "") ≠ .error (.fileGuard path)) ∧
      InstanceNode.sanitizedAll (filledForm "me.png" "") =
        InstanceNode.detachedAll (filledForm "me.png" "") := by
  have readName : Json.ofText? nameText =
      some (.obj [("name", .str "me.png"), ("avatar", .str "")]) := by decide +kernel
  have edited : applyText {} nameText pictureForm = .ok (filledForm "me.png" "") :=
    applyText_of_noFiles {} (by decide) readName nofun
  obtain ⟨members, read, attached, guarded, erased, -⟩ := edit_attaches_iff edited
  obtain rfl : members = [("name", .str "me.png"), ("avatar", .str "")] := by
    simpa using read.symm.trans readName
  have nothing : Place.attachesMembers "*" pictureForm
      [("name", .str "me.png"), ("avatar", .str "")] = false := by decide
  rw [show ({} : CompileOptions).wildcard = "*" from rfl, nothing] at attached guarded erased
  refine ⟨edited, by simpa using attached, fun next path refused => ?_, by simpa using erased⟩
  exact absurd ((guarded next).mp ⟨path, refused⟩) Bool.false_ne_true

/-- A text is attached as a file. The body cannot be edited any more, and saving erases the text. -/
theorem text_attached_as_file :
    InstanceNode.anyHasFiles pictureForm = false ∧
      applyText {} "\x7b\"name\":\"\",\"avatar\":\"me.png\"\x7d" pictureForm =
        .ok (filledForm "" "me.png") ∧
      InstanceNode.anyHasFiles (filledForm "" "me.png") = true ∧
      applyText {} nameText (filledForm "" "me.png") = .error (.fileGuard "avatar") ∧
      (InstanceNode.sanitizedAll (filledForm "" "me.png")).map (·.value) = [.str "", .null] := by
  have read : Json.ofText? "\x7b\"name\":\"\",\"avatar\":\"me.png\"\x7d" =
      some (.obj [("name", .str ""), ("avatar", .str "me.png")]) := by decide +kernel
  exact ⟨by decide, applyText_of_noFiles {} (by decide) read nofun, by decide,
    applyText_eq_fileGuard_iff.mpr (by decide), by decide⟩

end Formwork
