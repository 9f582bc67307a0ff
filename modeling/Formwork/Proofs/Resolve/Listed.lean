/-
This file shows that the values of an enumeration rule are read back from its token: in quotes
whatever they are, and without quotes if nothing in them means something to the reader.
-/

import Formwork.Resolve.Enumeration

namespace Formwork.Enumeration

/-- A value after the characters of a text are read. -/
def Reading.append (reading : Reading) (text : List Char) : Reading :=
  { reading with reversed := text.reverse ++ reading.reversed }

theorem Reading.append_cons (reading : Reading) (c : Char) (text : List Char) :
    reading.append (c :: text) = (reading.push c).append text := by
  rw [append, append, push, List.reverse_cons, List.append_assoc]
  rfl

/-- Characters are read as a value up to the comma behind them, or up to the end. -/
def ReadAs (written : List Char) (text : String) : Prop :=
  ∃ reading : Reading, reading.value = text ∧
    ∀ rest : List Char, rest.head? ≠ some '"' →
      readValues false {} (written ++ rest) = readValues false reading rest

/-- Joined values are read one by one. -/
theorem readValues_joined {α : Type} {written : α → List Char} {text : α → String}
    {values : List α} (nonempty : values ≠ [])
    (read : ∀ value ∈ values, ReadAs (written value) (text value)) :
    readValues false {} ([','].intercalate (values.map written)) = values.map text := by
  induction values with
  | nil => contradiction
  | cons first rest inductionHypothesis =>
      rw [List.forall_mem_cons] at read
      obtain ⟨⟨reading, isText, ends⟩, restRead⟩ := read
      cases rest with
      | nil =>
          have last := ends [] nofun
          rw [List.append_nil] at last
          rw [List.map_singleton, List.map_singleton, List.intercalate_singleton, last, readValues,
            isText]
      | cons next rest =>
          rw [List.map_cons, List.map_cons, List.intercalate_cons_cons, List.append_assoc,
            List.singleton_append, ends _ (by simp), readValues, if_neg Bool.false_ne_true, isText,
            ← List.map_cons, inductionHypothesis (List.cons_ne_nil _ _) restRead]
          rfl

/-! Values in quotes. -/

theorem readValues_inside {c : Char} (other : c ≠ '"') (reading : Reading) (rest : List Char) :
    readValues true reading (c :: rest) = readValues true (reading.push c) rest := by
  by_cases comma : c = ','
  · rw [comma, readValues, if_pos rfl]
  · rw [readValues]
    · exact other
    · exact comma

/-- A text with its quotes doubled is read up to the quote that closes it. -/
theorem readValues_doubled {rest : List Char} (closed : rest.head? ≠ some '"') (text : List Char)
    (reading : Reading) :
    readValues true reading
        (text.flatMap (fun c => if c = '"' then ['"', '"'] else [c]) ++ '"' :: rest) =
      readValues false (reading.append text) rest := by
  induction text generalizing reading with
  | nil =>
      rw [List.flatMap_nil, List.nil_append, readValues]
      · rfl
      · rintro others rfl
        exact closed rfl
  | cons c text inductionHypothesis =>
      rw [List.flatMap_cons, List.append_assoc, Reading.append_cons, ← inductionHypothesis]
      by_cases quote : c = '"'
      · rw [if_pos quote, quote]
        exact readValues.eq_2 _ _
      · rw [if_neg quote]
        exact readValues_inside quote _ _

theorem readAs_quotedValue (value : Json) :
    ReadAs (RuleObject.quotedValue value) (RuleObject.valueText value) := by
  have opened : ∀ others, readValues false {} ('"' :: others) = readValues true ⟨[], true⟩ others :=
    fun others => by
      rw [readValues]
      rfl
  refine ⟨⟨(RuleObject.valueText value).toList.reverse, true⟩, ?_, fun rest closed => ?_⟩
  · rw [Reading.value, if_pos rfl, List.reverse_reverse, String.ofList_toList]
  · rw [RuleObject.quotedValue, List.append_assoc, List.cons_append, List.singleton_append, opened,
      readValues_doubled closed, Reading.append, List.append_nil]

/-! Values without quotes. -/

/-- A text that is read as it is without quotes: it has no comma, no white space around it and no
quote in front. -/
structure Unquoted (text : String) : Prop where
  noComma : ',' ∉ text.toList
  trimmed : Text.trimmed text = text
  noQuote : text.toList.head? ≠ some '"'

instance (text : String) : Decidable (Unquoted text) :=
  decidable_of_iff
    (',' ∉ text.toList ∧ Text.trimmed text = text ∧ text.toList.head? ≠ some '"')
    ⟨fun ⟨noComma, trimmed, noQuote⟩ => ⟨noComma, trimmed, noQuote⟩,
      fun ⟨noComma, trimmed, noQuote⟩ => ⟨noComma, trimmed, noQuote⟩⟩

theorem readValues_outside {c : Char} (noComma : c ≠ ',') {reading : Reading}
    (other : c = '"' → reading.opens = false) (rest : List Char) :
    readValues false reading (c :: rest) = readValues false (reading.push c) rest := by
  by_cases quote : c = '"'
  · rw [quote, readValues, if_neg (by simp [other quote])]
  · rw [readValues]
    · exact quote
    · exact noComma

/-- Behind a visible character a quote is a quote. -/
theorem readValues_visible {text : List Char} (noComma : ',' ∉ text) {reading : Reading}
    (visible : ∃ c ∈ reading.reversed, Text.isBlank c = false) (rest : List Char) :
    readValues false reading (text ++ rest) = readValues false (reading.append text) rest := by
  induction text generalizing reading with
  | nil => rfl
  | cons c text inductionHypothesis =>
      rw [List.mem_cons, not_or] at noComma
      obtain ⟨shown, member, notBlank⟩ := visible
      have notOpen : reading.opens = false := by
        have kept := List.ne_nil_of_mem (Text.mem_trim notBlank member)
        rw [Reading.opens, List.isEmpty_eq_false_iff.mpr kept]
        rfl
      rw [List.cons_append, readValues_outside (Ne.symm noComma.1) (fun _ => notOpen),
        inductionHypothesis noComma.2 ⟨shown, List.mem_cons_of_mem _ member, notBlank⟩,
        Reading.append_cons]

theorem Unquoted.trim_eq {text : String} (unquoted : Unquoted text) :
    Text.trim text.toList = text.toList := by
  rw [← String.toList_ofList (l := Text.trim _), ← Text.trimmed, unquoted.trimmed]

theorem readValues_unquoted {text : String} (unquoted : Unquoted text) (rest : List Char) :
    readValues false {} (text.toList ++ rest) =
      readValues false ⟨text.toList.reverse, false⟩ rest := by
  have notBlank := Text.isBlank_head?_trim text.toList
  rw [unquoted.trim_eq] at notBlank
  obtain ⟨noComma, -, noQuote⟩ := unquoted
  cases shown : text.toList with
  | nil => rfl
  | cons c others =>
      rw [shown] at noComma noQuote notBlank
      rw [List.mem_cons, not_or] at noComma
      have first : c ≠ '"' := fun same => noQuote (congrArg some same)
      rw [List.cons_append,
        readValues_outside (Ne.symm noComma.1) (fun quote => absurd quote first),
        readValues_visible noComma.2 ⟨c, List.mem_cons_self, notBlank c rfl⟩, Reading.append,
        List.reverse_cons]
      rfl

theorem Unquoted.readAs {text : String} (unquoted : Unquoted text) : ReadAs text.toList text := by
  refine ⟨⟨text.toList.reverse, false⟩, ?_, fun rest _ => readValues_unquoted unquoted rest⟩
  rw [Reading.value, if_neg Bool.false_ne_true, List.reverse_reverse]
  exact unquoted.trimmed

/-! Tokens. -/

/-- A text that does not end in white space. -/
def EndsVisible (cs : List Char) : Prop :=
  ∀ c ∈ cs.getLast?, Text.isBlank c = false

theorem endsVisible_append {first second : List Char} (firstEnds : EndsVisible first)
    (secondEnds : EndsVisible second) : EndsVisible (first ++ second) := by
  intro c isLast
  rw [List.getLast?_append, Option.mem_def, Option.or_eq_some_iff] at isLast
  rcases isLast with inSecond | ⟨-, inFirst⟩
  · exact secondEnds c inSecond
  · exact firstEnds c inFirst

theorem endsVisible_intercalate {values : List (List Char)}
    (ends : ∀ value ∈ values, EndsVisible value) : EndsVisible ([','].intercalate values) := by
  have comma : EndsVisible [','] := by
    intro c isLast
    cases isLast
    decide
  induction values with
  | nil => nofun
  | cons first rest inductionHypothesis =>
      rw [List.forall_mem_cons] at ends
      cases rest with
      | nil =>
          rw [List.intercalate_singleton]
          exact ends.1
      | cons next rest =>
          rw [List.intercalate_cons_cons]
          exact endsVisible_append (endsVisible_append ends.1 comma) (inductionHypothesis ends.2)

theorem endsVisible_quotedValue (value : Json) : EndsVisible (RuleObject.quotedValue value) := by
  intro c isLast
  rw [RuleObject.quotedValue, List.getLast?_concat] at isLast
  cases isLast
  decide

/-- A token without white space at its end lists the values behind its name. -/
theorem tokenValues?_eq {token : String} {values : List Char}
    (named : token.toList = beginning ++ values) (ends : EndsVisible values) :
    tokenValues? token = some ((readValues false {} values).map .str) := by
  have nameEnds : EndsVisible beginning := by
    intro c isLast
    cases isLast
    decide
  have trimmed : Text.trim token.toList = beginning ++ values := by
    rw [named]
    refine Text.trim_eq_self (fun c isFirst => ?_) (endsVisible_append nameEnds ends)
    cases isFirst
    decide
  have begins : beginning.isPrefixOf (Text.lowercase (beginning ++ values)) = true :=
    List.isPrefixOf_iff_prefix.mpr ⟨Text.lowercaseAfter beginning.reverse values, rfl⟩
  have cut : Text.afterBytes? 3 (beginning ++ values) = some values := by
    simp [beginning, Text.afterBytes?, Char.utf8Size]
  simp only [tokenValues?, trimmed, begins, if_true, cut, Option.map_some]

/-- The token of an enumeration rule lists the texts of its values. -/
theorem tokenValues?_oneOf {values : List Json} (nonempty : values ≠ []) :
    tokenValues? (RuleObject.oneOfToken values) =
      some (values.map fun value => .str (RuleObject.valueText value)) := by
  have ends : EndsVisible ([','].intercalate (values.map RuleObject.quotedValue)) :=
    endsVisible_intercalate (List.forall_mem_map.mpr fun value _ => endsVisible_quotedValue value)
  have named : (RuleObject.oneOfToken values).toList =
      beginning ++ [','].intercalate (values.map RuleObject.quotedValue) := String.toList_ofList
  rw [tokenValues?_eq named ends, readValues_joined nonempty fun value _ => readAs_quotedValue value,
    List.map_map]
  rfl

theorem tokenValues?_joined {texts : List String} (nonempty : texts ≠ [])
    (unquoted : ∀ text ∈ texts, Unquoted text) :
    tokenValues? ("in:" ++ ",".intercalate texts) = some (texts.map .str) := by
  have named : ("in:" ++ ",".intercalate texts).toList =
      beginning ++ [','].intercalate (texts.map String.toList) := by
    rw [String.toList_append, String.toList_intercalate]
    rfl
  have ends : EndsVisible ([','].intercalate (texts.map String.toList)) := by
    refine endsVisible_intercalate (List.forall_mem_map.mpr fun text member => ?_)
    exact (unquoted text member).trim_eq ▸ Text.isBlank_getLast?_trim text.toList
  rw [tokenValues?_eq named ends,
    readValues_joined nonempty fun text member => (unquoted text member).readAs, List.map_id']

/-- The last token that lists values lists those of a declaration without objects that do. -/
theorem choices?_append {declaration : Declaration}
    (noObjects : declaration.objects.filterMap objectValues? = []) {token : String}
    {values : List Json} (listed : tokenValues? token = some values) (before : List String) :
    choices? declaration (before ++ [token]) = some values := by
  rw [choices?, noObjects, List.filterMap_append, List.filterMap_cons_some listed]
  simp

/-- The values of an enumeration rule are read back from its token as texts, and so are texts from a
token that joins them, if each of them is read as it is without quotes. -/
theorem choices?_listed {declaration : Declaration}
    (noObjects : declaration.objects.filterMap objectValues? = []) (before : List String) :
    (∀ values : List Json, values ≠ [] →
      choices? declaration (before ++ (Declaration.object (.oneOf values)).tokens) =
        some (values.map fun value => .str (RuleObject.valueText value))) ∧
      ∀ texts : List String, texts ≠ [] → (∀ text ∈ texts, Unquoted text) →
        choices? declaration (before ++ ["in:" ++ ",".intercalate texts]) =
          some (texts.map .str) :=
  ⟨fun _ nonempty => choices?_append noObjects (tokenValues?_oneOf nonempty) before,
    fun _ nonempty unquoted =>
      choices?_append noObjects (tokenValues?_joined nonempty unquoted) before⟩

/-- Whatever a value holds it is read back from quotes; without quotes a text may hold them, but not
begin with them. -/
theorem choices?_listed_sizes :
    let values := [.str "a, \"b\"|c ", .str "", .null, .bool true, .num (.int 3)]
    let texts := ["S", "", "X\"L\""]
    (Declaration.text "required").objects.filterMap objectValues? = [] ∧
      values ≠ [] ∧ texts ≠ [] ∧ (∀ text ∈ texts, Unquoted text) ∧
      choices? (.text "required") (["required"] ++ (Declaration.object (.oneOf values)).tokens) =
        some [.str "a, \"b\"|c ", .str "", .str "", .str "true", .str "3"] ∧
      choices? (.text "required") (["required"] ++ ["in:" ++ ",".intercalate texts]) =
        some [.str "S", .str "", .str "X\"L\""] := by
  intro values texts
  have noObjects : (Declaration.text "required").objects.filterMap objectValues? = [] := rfl
  have unquoted : ∀ text ∈ texts, Unquoted text := by decide
  obtain ⟨quoted, joined⟩ := choices?_listed noObjects ["required"]
  refine ⟨noObjects, List.cons_ne_nil _ _, List.cons_ne_nil _ _, unquoted, ?_, ?_⟩
  · rw [quoted values (List.cons_ne_nil _ _)]
    decide +kernel
  · exact joined texts (List.cons_ne_nil _ _) unquoted

end Formwork.Enumeration
