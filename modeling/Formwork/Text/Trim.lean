/-
This file removes white space from the ends of a text.
-/

import Formwork.Text.Character

namespace Formwork.Text

def trimStart (cs : List Char) : List Char :=
  cs.dropWhile isBlank

def trimEnd (cs : List Char) : List Char :=
  (cs.reverse.dropWhile isBlank).reverse

def trim (cs : List Char) : List Char :=
  trimEnd (trimStart cs)

theorem trimEnd_begins (cs : List Char) : trimEnd cs <+: cs := by
  have suffix : cs.reverse.dropWhile isBlank <:+ cs.reverse := List.dropWhile_suffix _
  simpa [trimEnd] using List.reverse_prefix.mpr suffix

theorem trim_sublist (cs : List Char) : (trim cs).Sublist cs :=
  (trimEnd_begins _).sublist.trans (List.dropWhile_suffix _).sublist

theorem trim_infix (cs : List Char) : trim cs <:+: cs :=
  (trimEnd_begins _).isInfix.trans (List.dropWhile_suffix _).isInfix

/-- No character is removed but white space. -/
theorem mem_trim {c : Char} {cs : List Char} (visible : isBlank c = false) (member : c ∈ cs) :
    c ∈ trim cs := by
  have kept : ∀ cs : List Char, c ∈ cs → c ∈ cs.dropWhile isBlank := by
    intro cs member
    rw [← List.takeWhile_append_dropWhile (p := isBlank) (l := cs), List.mem_append] at member
    refine member.resolve_left fun removed => ?_
    rw [List.all_eq_true.mp List.all_takeWhile c removed] at visible
    cases visible
  rw [trim, trimEnd, List.mem_reverse]
  exact kept _ (List.mem_reverse.mpr (kept cs member))

/-- A beginning that does not end in white space is left at the beginning. -/
theorem prefix_trimEnd {beginning cs : List Char} (begins : beginning <+: cs)
    (ends : ∀ c ∈ beginning.getLast?, isBlank c = false) : beginning <+: trimEnd cs := by
  obtain ⟨rest, rfl⟩ := begins
  have kept : beginning.reverse.dropWhile isBlank = beginning.reverse := by
    cases reversed : beginning.reverse with
    | nil => rfl
    | cons c before =>
        have last : beginning.getLast? = some c := by
          rw [List.getLast?_eq_head?_reverse, reversed, List.head?_cons]
        rw [List.dropWhile_cons_of_neg (by simp [ends c last])]
  have suffix : beginning.reverse <:+ (rest.reverse ++ beginning.reverse).dropWhile isBlank := by
    rw [List.dropWhile_append, kept]
    split
    · exact List.suffix_refl _
    · exact List.suffix_append _ _
  rw [trimEnd, List.reverse_append]
  simpa using List.reverse_prefix.mpr suffix

/-- What is left of a text does not end in white space. -/
theorem isBlank_getLast?_trim (cs : List Char) : ∀ c ∈ (trim cs).getLast?, isBlank c = false := by
  intro c isLast
  have stopped := List.head?_dropWhile_not isBlank (trimStart cs).reverse
  rw [trim, trimEnd, List.getLast?_reverse] at isLast
  rw [Option.mem_def.mp isLast] at stopped
  exact stopped

/-- What is left of a text does not begin with white space. -/
theorem isBlank_head?_trim (cs : List Char) : ∀ c ∈ (trim cs).head?, isBlank c = false := by
  intro c isFirst
  obtain ⟨removed, whole⟩ := trimEnd_begins (trimStart cs)
  have stopped := List.head?_dropWhile_not isBlank cs
  rw [← trimStart, ← whole, List.head?_append, ← trim, Option.mem_def.mp isFirst] at stopped
  exact stopped

/-- A beginning that does not end in white space is not changed at the end. -/
theorem prefix_trim_iff {beginning cs : List Char}
    (ends : ∀ c ∈ beginning.getLast?, isBlank c = false) :
    beginning <+: trim cs ↔ beginning <+: trimStart cs :=
  ⟨fun begins => begins.trans (trimEnd_begins _), fun begins => prefix_trimEnd begins ends⟩

theorem trimStart_append {cs : List Char} (nonempty : trimStart cs ≠ []) (more : List Char) :
    trimStart (cs ++ more) = trimStart cs ++ more := by
  rw [trimStart, List.dropWhile_append, if_neg]
  · rfl
  · rw [List.isEmpty_iff]
    exact nonempty

/-- A visible character stops both ends. -/
theorem trimStart_separated {separator : Char} (visible : isBlank separator = false)
    (cs more : List Char) :
    trimStart (cs ++ separator :: more) = trimStart cs ++ separator :: more := by
  rw [trimStart, List.dropWhile_append]
  split
  · rename_i blank
    rw [List.dropWhile_cons_of_neg (by simp [visible]), trimStart, List.isEmpty_iff.mp blank]
    rfl
  · rfl

theorem trimEnd_separated {separator : Char} (visible : isBlank separator = false)
    (cs more : List Char) : trimEnd (cs ++ separator :: more) = cs ++ separator :: trimEnd more := by
  rw [trimEnd, List.reverse_append, List.reverse_cons, List.append_assoc, List.singleton_append,
    List.dropWhile_append]
  split
  · rename_i blank
    rw [List.dropWhile_cons_of_neg (by simp [visible]), trimEnd, List.isEmpty_iff.mp blank]
    simp
  · simp [trimEnd]

theorem trim_separated {separator : Char} (visible : isBlank separator = false)
    (cs more : List Char) :
    trim (cs ++ separator :: more) = trimStart cs ++ separator :: trimEnd more := by
  rw [trim, trimStart_separated visible, trimEnd_separated visible]

/-- A text without the separator begins all of a text exactly if it begins the text before the
first separator. -/
theorem prefix_trim_append_iff {separator : Char} {beginning cs : List Char}
    (free : separator ∉ beginning) (ends : ∀ c ∈ beginning.getLast?, isBlank c = false)
    (visible : isBlank separator = false) (more : List Char) :
    beginning <+: trim (cs ++ separator :: more) ↔ beginning <+: trim cs := by
  rw [prefix_trim_iff ends, prefix_trim_iff ends, trimStart_separated visible]
  constructor
  · rintro ⟨others, whole⟩
    rcases List.append_eq_append_iff.mp whole with ⟨left, begins, _⟩ | ⟨left, isBeginning, rest⟩
    · exact ⟨left, begins.symm⟩
    · cases left with
      | nil => exact ⟨[], by rw [isBeginning, List.append_nil, List.append_nil]⟩
      | cons c left =>
          refine absurd ?_ free
          rw [isBeginning, (List.cons.inj rest).1]
          exact List.mem_append_right _ List.mem_cons_self
  · exact fun begins => begins.trans (List.prefix_append _ _)

/-- A text that is continued and does not end in white space then is not the same without white
space at its ends. -/
theorem trim_append_ne {cs more : List Char} (nonempty : trim cs ≠ []) (continued : more ≠ [])
    (ends : ∀ c ∈ more.getLast?, isBlank c = false) : trim (cs ++ more) ≠ trim cs := by
  have started : trimStart cs ≠ [] := by
    intro blank
    rw [trim, blank] at nonempty
    exact nonempty rfl
  have kept : trimEnd (trimStart cs ++ more) = trimStart cs ++ more := by
    refine (trimEnd_begins _).eq_of_length_le (prefix_trimEnd (List.prefix_refl _) ?_).length_le
    intro c isLast
    rw [List.getLast?_append, List.getLast?_eq_some_getLast continued, Option.some_or] at isLast
    exact ends c (List.getLast?_eq_some_getLast continued ▸ isLast)
  rw [trim, trimStart_append started, kept]
  intro same
  have shorter := (trimEnd_begins (trimStart cs)).length_le
  have positive := List.length_pos_iff.mpr continued
  have sameLength := congrArg List.length same
  rw [List.length_append] at sameLength
  rw [trim] at sameLength
  omega

theorem trimStart_eq_self {cs : List Char} (starts : ∀ c ∈ cs.head?, isBlank c = false) :
    trimStart cs = cs := by
  cases cs with
  | nil => rfl
  | cons c rest => exact List.dropWhile_cons_of_neg (by simp [starts c rfl])

/-- A text without white space at its ends stays as it is. -/
theorem trim_eq_self {cs : List Char} (starts : ∀ c ∈ cs.head?, isBlank c = false)
    (ends : ∀ c ∈ cs.getLast?, isBlank c = false) : trim cs = cs := by
  rw [trim, trimStart_eq_self starts]
  exact (trimEnd_begins cs).eq_of_length_le (prefix_trimEnd (List.prefix_refl cs) ends).length_le

theorem trim_trim (cs : List Char) : trim (trim cs) = trim cs :=
  trim_eq_self (isBlank_head?_trim cs) (isBlank_getLast?_trim cs)

theorem trimStart_padded {before : List Char} (blank : ∀ c ∈ before, isBlank c = true)
    (cs : List Char) : trimStart (before ++ cs) = trimStart cs :=
  List.dropWhile_append_of_pos blank

theorem trimStart_eq_nil {cs : List Char} (blank : ∀ c ∈ cs, isBlank c = true) :
    trimStart cs = [] := by
  have removed := trimStart_padded blank []
  rwa [List.append_nil] at removed

theorem trimStart_append_of_nil {cs : List Char} (empty : trimStart cs = []) (more : List Char) :
    trimStart (cs ++ more) = trimStart more := by
  rw [trimStart, List.dropWhile_append, ← trimStart, empty]
  rfl

theorem trimEnd_padded {after : List Char} (blank : ∀ c ∈ after, isBlank c = true)
    (cs : List Char) : trimEnd (cs ++ after) = trimEnd cs := by
  rw [trimEnd, List.reverse_append,
    List.dropWhile_append_of_pos (fun c member => blank c (List.mem_reverse.mp member)), trimEnd]

/-- White space behind a text is removed with that at its end. -/
theorem trim_padded {after : List Char} (blank : ∀ c ∈ after, isBlank c = true)
    (cs : List Char) : trim (cs ++ after) = trim cs := by
  by_cases allBlank : trimStart cs = []
  · rw [trim, trim, trimStart_append_of_nil allBlank, trimStart_eq_nil blank, allBlank]
  · rw [trim, trimStart_append allBlank, trimEnd_padded blank, trim]

theorem trim_trimEnd (cs : List Char) : trim (trimEnd cs) = trim cs := by
  have whole : trimEnd cs ++ (cs.reverse.takeWhile isBlank).reverse = cs := by
    rw [trimEnd, ← List.reverse_append, List.takeWhile_append_dropWhile, List.reverse_reverse]
  have blank : ∀ c ∈ (cs.reverse.takeWhile isBlank).reverse, isBlank c = true := by
    intro c removed
    exact List.all_eq_true.mp List.all_takeWhile c (List.mem_reverse.mp removed)
  rw [← trim_padded blank, whole]

theorem trim_between {first last : Char} (starts : isBlank first = false)
    (ends : isBlank last = false) (cs : List Char) :
    trim (first :: (cs ++ [last])) = first :: (cs ++ [last]) := by
  refine trim_eq_self (fun c isFirst => ?_) (fun c isLast => ?_)
  · cases isFirst
    exact starts
  · rw [← List.cons_append, List.getLast?_concat] at isLast
    cases isLast
    exact ends

/-- The text without white space at either end. -/
def trimmed (text : String) : String :=
  String.ofList (trim text.toList)

end Formwork.Text
