/-
This file shows that entries that are written one on a line are recovered from the source text,
whatever other lines stand between them.
-/

import Formwork.Proofs.Text.Lines
import Formwork.Rule.Scan

namespace Formwork.RuleSet

/-! Written entries. -/

/-- A text that stands between quotes on one line. -/
structure IsQuotable (text : String) : Prop where
  unquoted : ∀ c ∈ text.toList, isQuote c = false
  oneLine : '\n' ∉ text.toList

instance (text : String) : Decidable (IsQuotable text) :=
  haveI := List.decidableBAll (isQuote · = false) text.toList
  decidable_of_iff ((∀ c ∈ text.toList, isQuote c = false) ∧ '\n' ∉ text.toList)
    ⟨fun ⟨unquoted, oneLine⟩ => ⟨unquoted, oneLine⟩,
      fun ⟨unquoted, oneLine⟩ => ⟨unquoted, oneLine⟩⟩

def quoted (text : String) : List Char :=
  '\'' :: (text.toList ++ ['\''])

/-- The quoted path, an arrow and the list of the quoted rules. -/
def writtenEntry (path : String) (rules : List String) : List Char :=
  quoted path ++ " => [".toList ++ ", ".toList.intercalate (rules.map quoted) ++ "],".toList

/-- How many quoted texts a line has, of which each takes two quotes. -/
def quotedCount (line : List Char) : Nat :=
  line.countP isQuote / 2

/-- A comment, a line without an arrow or a line with too few quoted texts. -/
def IsIdle (line : List Char) : Prop :=
  ("//".toList <+: Text.trimStart line ∨ "#".toList <+: Text.trimStart line) ∨
    ¬ "=>".toList <:+: line ∨ quotedCount line < 2

instance (line : List Char) : Decidable (IsIdle line) :=
  haveI : Decidable ("=>".toList <:+: line) := decidable_of_iff _ (Text.occursIn_iff _ _)
  inferInstanceAs (Decidable (_ ∨ _ ∨ _))

/-- A line of a source text: an entry with white space around it, or any other line. -/
inductive SourceLine where
  | entry (before : List Char) (path : String) (rules : List String) (after : List Char)
  | other (line : List Char)

namespace SourceLine

def text : SourceLine → List Char
  | entry before path rules after => before ++ writtenEntry path rules ++ after
  | other line => line

/-- A line with nothing but an entry, or with none. -/
def IsValid : SourceLine → Prop
  | entry before path rules after =>
      (Text.IsSpacing before ∧ Text.IsSpacing after) ∧
        IsQuotable path ∧ rules ≠ [] ∧ ∀ rule ∈ rules, IsQuotable rule
  | other line => '\n' ∉ line ∧ IsIdle line

instance : DecidablePred IsValid
  | entry _ _ _ _ => inferInstanceAs (Decidable (_ ∧ _))
  | other _ => inferInstanceAs (Decidable (_ ∧ _))

def declared? : SourceLine → Option (String × Declaration)
  | entry _ path rules _ => some (path, .list (rules.map .text))
  | other _ => none

/-- The text with these lines. -/
def source (lines : List SourceLine) : String :=
  String.ofList (['\n'].intercalate (lines.map text))

end SourceLine

/-! Quoted texts. -/

theorem quotedTexts_unquoted {cs : List Char} (unquoted : ∀ c ∈ cs, isQuote c = false)
    (rest : List Char) : quotedTexts none (cs ++ rest) = quotedTexts none rest := by
  induction cs with
  | nil => rfl
  | cons c cs inductionHypothesis =>
      rw [List.forall_mem_cons] at unquoted
      rw [List.cons_append, quotedTexts, unquoted.1]
      exact inductionHypothesis unquoted.2

theorem quotedTexts_opened {text : List Char} (unquoted : ∀ c ∈ text, isQuote c = false)
    (reversed rest : List Char) :
    quotedTexts (some reversed) (text ++ '\'' :: rest) =
      (reversed.reverse ++ text) :: quotedTexts none rest := by
  induction text generalizing reversed with
  | nil =>
      rw [List.append_nil]
      rfl
  | cons c text inductionHypothesis =>
      rw [List.forall_mem_cons] at unquoted
      rw [List.cons_append, quotedTexts, unquoted.1, if_neg Bool.false_ne_true,
        inductionHypothesis unquoted.2, List.reverse_cons, List.append_assoc]
      rfl

theorem quotedTexts_quoted {text : String} (quotable : IsQuotable text) (rest : List Char) :
    quotedTexts none (quoted text ++ rest) = text.toList :: quotedTexts none rest := by
  have opened := quotedTexts_opened quotable.unquoted [] rest
  rw [quoted, List.cons_append, List.append_assoc, List.singleton_append]
  exact opened

theorem quotedTexts_rules {rules : List String} (quotable : ∀ rule ∈ rules, IsQuotable rule)
    (rest : List Char) :
    quotedTexts none (", ".toList.intercalate (rules.map quoted) ++ rest) =
      rules.map String.toList ++ quotedTexts none rest := by
  induction rules with
  | nil => rfl
  | cons rule rules inductionHypothesis =>
      rw [List.forall_mem_cons] at quotable
      cases rules with
      | nil =>
          rw [List.map_singleton, List.intercalate_singleton, quotedTexts_quoted quotable.1]
          rfl
      | cons next rules =>
          rw [List.map_cons, List.map_cons, List.intercalate_cons_cons, List.append_assoc,
            List.append_assoc, quotedTexts_quoted quotable.1,
            quotedTexts_unquoted (by simp [isQuote]), ← List.map_cons,
            inductionHypothesis quotable.2]
          rfl

/-- Any quote closes what any other opened, so two of them make one quoted text. -/
theorem length_quotedTexts (opened : Option (List Char)) (cs : List Char) :
    (quotedTexts opened cs).length = (opened.toList.length + cs.countP isQuote) / 2 := by
  induction cs generalizing opened with
  | nil => cases opened <;> simp [quotedTexts]
  | cons c rest inductionHypothesis =>
      cases opened with
      | none =>
          cases quote : isQuote c <;> simp [quotedTexts, quote, inductionHypothesis, Nat.add_comm]
      | some reversed =>
          cases quote : isQuote c <;> simp [quotedTexts, quote, inductionHypothesis]
          omega

/-! Lines. -/

theorem trim_writtenEntry {before after : List Char} (indented : Text.IsSpacing before)
    (followed : Text.IsSpacing after) (path : String) (rules : List String) :
    Text.trim (before ++ writtenEntry path rules ++ after) = writtenEntry path rules := by
  have bare : Text.trim (writtenEntry path rules) = writtenEntry path rules := by
    refine Text.trim_eq_self (fun c isFirst => ?_) (fun c isLast => ?_)
    · cases isFirst
      decide
    · rw [writtenEntry, show "],".toList = [']'] ++ [','] from rfl, ← List.append_assoc,
        List.getLast?_concat] at isLast
      cases isLast
      decide
  rw [Text.trim_padded followed.isBlank, Text.trim, Text.trimStart_padded indented.isBlank]
  exact bare

theorem isDeclaring_writtenEntry (path : String) (rules : List String) :
    isDeclaring (writtenEntry path rules) = true := by
  have arrow : "=>".toList <:+: writtenEntry path rules :=
    ⟨quoted path ++ [' '], " [".toList ++ ", ".toList.intercalate (rules.map quoted) ++ "],".toList,
      by simp [writtenEntry]⟩
  have noComment : "//".toList.isPrefixOf (writtenEntry path rules) = false ∧
      "#".toList.isPrefixOf (writtenEntry path rules) = false := ⟨rfl, rfl⟩
  rw [isDeclaring, noComment.1, noComment.2, (Text.occursIn_iff _ _).mpr arrow]
  rfl

theorem quotedTexts_writtenEntry {path : String} {rules : List String}
    (quotablePath : IsQuotable path) (quotable : ∀ rule ∈ rules, IsQuotable rule) :
    (quotedTexts none (writtenEntry path rules)).map String.ofList = path :: rules := by
  rw [writtenEntry, List.append_assoc, List.append_assoc, quotedTexts_quoted quotablePath,
    quotedTexts_unquoted (by simp [isQuote]), quotedTexts_rules quotable]
  simp [quotedTexts, isQuote]

theorem entryOfLine?_written {before after : List Char} (indented : Text.IsSpacing before)
    (followed : Text.IsSpacing after) {path : String} {rules : List String}
    (quotablePath : IsQuotable path) (nonempty : rules ≠ [])
    (quotable : ∀ rule ∈ rules, IsQuotable rule) :
    entryOfLine? (before ++ writtenEntry path rules ++ after) =
      some (path, .list (rules.map .text)) := by
  rw [entryOfLine?, trim_writtenEntry indented followed]
  simp only [isDeclaring_writtenEntry, if_true, quotedTexts_writtenEntry quotablePath quotable]
  obtain ⟨rule, others, rfl⟩ := List.exists_cons_of_ne_nil nonempty
  rfl

theorem isDeclaring_comment {line marker : List Char}
    (isMarker : marker = "//".toList ∨ marker = "#".toList) (begins : marker <+: line) :
    isDeclaring line = false := by
  rcases isMarker with rfl | rfl <;>
    rw [isDeclaring, List.isPrefixOf_iff_prefix.mpr begins] <;> simp

theorem isDeclaring_noArrow {line : List Char} (noArrow : ¬ "=>".toList <:+: line) :
    isDeclaring line = false := by
  have absent : Text.occursIn "=>".toList line = false := by
    rwa [Bool.eq_false_iff, ne_eq, Text.occursIn_iff]
  rw [isDeclaring, absent, Bool.and_false]

theorem entryOfLine?_of_not_declaring {line : List Char}
    (declaresNothing : isDeclaring (Text.trim line) = false) : entryOfLine? line = none := by
  simp only [entryOfLine?, declaresNothing, Bool.false_eq_true, if_false]

theorem entryOfLine?_of_few {line : List Char} (few : quotedCount line < 2) :
    entryOfLine? line = none := by
  have fewer : (Text.trim line).countP isQuote ≤ line.countP isQuote :=
    (Text.trim_sublist line).countP_le
  have short : ((quotedTexts none (Text.trim line)).map String.ofList).length < 2 := by
    rw [List.length_map, length_quotedTexts, Option.toList_none, List.length_nil, Nat.zero_add]
    exact Nat.lt_of_le_of_lt (Nat.div_le_div_right fewer) few
  simp only [entryOfLine?]
  split
  · split
    · rename_i texts
      rw [texts] at short
      simp only [List.length_cons] at short
      omega
    · rfl
  · rfl

theorem entryOfLine?_idle {line : List Char} (idle : IsIdle line) : entryOfLine? line = none := by
  have shown (marker : List Char) (ends : marker.getLast?.all (!Text.isBlank ·) = true)
      (begins : marker <+: Text.trimStart line) : marker <+: Text.trim line := by
    refine (Text.prefix_trim_iff fun c isLast => ?_).mpr begins
    rw [Option.mem_def.mp isLast] at ends
    simpa using ends
  rcases idle with (slashes | hash) | noArrow | few
  · exact entryOfLine?_of_not_declaring (isDeclaring_comment (.inl rfl) (shown _ rfl slashes))
  · exact entryOfLine?_of_not_declaring (isDeclaring_comment (.inr rfl) (shown _ rfl hash))
  · exact entryOfLine?_of_not_declaring
      (isDeclaring_noArrow fun arrow => noArrow (arrow.trans (Text.trim_infix line)))
  · exact entryOfLine?_of_few few

theorem entryOfLine?_text {line : SourceLine} (valid : line.IsValid) :
    entryOfLine? line.text = line.declared? := by
  cases line with
  | entry before path rules after =>
      obtain ⟨⟨indented, followed⟩, quotablePath, nonempty, quotable⟩ := valid
      exact entryOfLine?_written indented followed quotablePath nonempty quotable
  | other line => exact entryOfLine?_idle valid.2

theorem ignoresReturn_entryOfLine? : Text.IgnoresReturn entryOfLine? where
  empty := rfl
  concat line := by
    rw [entryOfLine?, entryOfLine?, Text.trim_padded (List.forall_mem_singleton.mpr rfl)]

theorem oneLine_quoted {text : String} (quotable : IsQuotable text) : '\n' ∉ quoted text := by
  simp [quoted, quotable.oneLine]

theorem oneLine_rules {rules : List String} (quotable : ∀ rule ∈ rules, IsQuotable rule) :
    '\n' ∉ ", ".toList.intercalate (rules.map quoted) := by
  induction rules with
  | nil => exact List.not_mem_nil
  | cons rule rules inductionHypothesis =>
      rw [List.forall_mem_cons] at quotable
      have here := oneLine_quoted quotable.1
      cases rules with
      | nil => simpa using here
      | cons next rules =>
          have later := inductionHypothesis quotable.2
          rw [List.map_cons, List.map_cons, List.intercalate_cons_cons, ← List.map_cons]
          simp only [List.mem_append, not_or]
          exact ⟨⟨here, by decide⟩, later⟩

theorem oneLine_text {line : SourceLine} (valid : line.IsValid) : '\n' ∉ line.text := by
  cases line with
  | entry before path rules after =>
      obtain ⟨⟨indented, followed⟩, quotablePath, -, quotable⟩ := valid
      rw [SourceLine.text, writtenEntry]
      simp only [List.mem_append, not_or]
      exact ⟨⟨indented.oneLine, ⟨⟨oneLine_quoted quotablePath, by decide⟩,
        oneLine_rules quotable⟩, by decide⟩, followed.oneLine⟩
  | other line => exact valid.1

/-- Scanning a text of written entries gives the rules that are collected from them, each declared as
the list of its rules, and no other line makes a difference. -/
theorem scan_source {lines : List SourceLine} (valid : ∀ line ∈ lines, line.IsValid) :
    scan (SourceLine.source lines) = ofList (lines.filterMap SourceLine.declared?) ∧
      scan (SourceLine.source (lines.filter (·.declared?.isSome))) =
        scan (SourceLine.source lines) := by
  have scanned {lines : List SourceLine} (valid : ∀ line ∈ lines, line.IsValid) :
      scan (SourceLine.source lines) = ofList (lines.filterMap SourceLine.declared?) := by
    rw [scan, SourceLine.source, String.toList_ofList,
      ignoresReturn_entryOfLine?.filterMap_joined
        (List.forall_mem_map.mpr fun line member => oneLine_text (valid line member)),
      List.filterMap_map]
    exact congrArg ofList
      (List.filterMap_congr fun line member => entryOfLine?_text (valid line member))
  refine ⟨scanned valid, ?_⟩
  rw [scanned valid, scanned fun line member => valid line (List.mem_filter.mp member).1,
    List.filterMap_filter]
  congr 1
  refine List.filterMap_congr fun line _ => ?_
  cases line <;> rfl

/-- Arrows, comment marks and brackets inside quotes are text, an empty text is a path and a rule too,
and a path that comes again is declared anew in its place. -/
theorem scan_source_arrow :
    let lines := [
      .other "  // 'name' => ['required'],".toList,
      .entry ['\t'] "a => b" ["", "// required], [x", "#"] ['\r'],
      .other "'name' => $rules,".toList,
      .other [],
      .entry [] "" ["max:3"] [],
      .other "\u2003# 'a' => 'b'\r".toList,
      .other "return ['x', 'y', 'z'];".toList,
      .entry "    ".toList "a => b" ["integer"] []]
    (∀ line ∈ lines, line.IsValid) ∧
      (scan (SourceLine.source lines)).entries =
        [("a => b", .list [.text "integer"]), ("", .list [.text "max:3"])] := by
  intro lines
  have valid : ∀ line ∈ lines, line.IsValid := by decide
  refine ⟨valid, ?_⟩
  rw [(scan_source valid).1]
  rfl

end Formwork.RuleSet
