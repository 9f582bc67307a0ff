/-
This file cuts texts at characters, at marks and at line ends.
-/

namespace Formwork.Text

/-- The text cut at every `separator`; there is always one piece more than separators. -/
def pieces (separator : Char) : List Char → List (List Char)
  | [] => [[]]
  | c :: rest =>
      if c == separator then [] :: pieces separator rest
      else
        match pieces separator rest with
        | [] => [[c]]
        | first :: others => (c :: first) :: others

theorem pieces_ne_nil (separator : Char) (cs : List Char) : pieces separator cs ≠ [] := by
  cases cs with
  | nil => simp [pieces]
  | cons c rest =>
      rw [pieces]
      split
      · simp
      · split <;> simp

theorem pieces_cons (separator c : Char) (rest : List Char) :
    ∃ first others, pieces separator rest = first :: others ∧
      pieces separator (c :: rest) =
        if c = separator then [] :: first :: others else (c :: first) :: others := by
  obtain ⟨first, others, equal⟩ := List.exists_cons_of_ne_nil (pieces_ne_nil separator rest)
  refine ⟨first, others, equal, ?_⟩
  by_cases same : c = separator <;> simp [pieces, equal, same]

/-- Nothing but the separators is lost. -/
theorem intercalate_pieces (separator : Char) (cs : List Char) :
    [separator].intercalate (pieces separator cs) = cs := by
  induction cs with
  | nil => rfl
  | cons c rest inductionHypothesis =>
      obtain ⟨first, others, restPieces, allPieces⟩ := pieces_cons separator c rest
      rw [restPieces] at inductionHypothesis
      rw [allPieces]
      split
      · rename_i same
        rw [List.intercalate_cons_cons, inductionHypothesis, same]
        rfl
      · cases others with
        | nil => simpa using inductionHypothesis
        | cons next others => simpa [List.intercalate_cons_cons] using inductionHypothesis

/-- No piece holds the separator. -/
theorem not_mem_of_mem_pieces (separator : Char) (cs piece : List Char)
    (member : piece ∈ pieces separator cs) : separator ∉ piece := by
  induction cs generalizing piece with
  | nil => simp_all [pieces]
  | cons c rest inductionHypothesis =>
      obtain ⟨first, others, restPieces, allPieces⟩ := pieces_cons separator c rest
      rw [restPieces] at inductionHypothesis
      rw [allPieces] at member
      split at member
      · rcases List.mem_cons.mp member with isEmpty | later
        · simp [isEmpty]
        · exact inductionHypothesis piece later
      · rename_i differ
        rcases List.mem_cons.mp member with isFirst | later
        · rw [isFirst, List.mem_cons, not_or]
          exact ⟨fun equal => differ equal.symm, inductionHypothesis first List.mem_cons_self⟩
        · exact inductionHypothesis piece (List.mem_cons_of_mem first later)

/-- A text begins with its first piece, and is it if there is no other. -/
theorem pieces_begins {separator : Char} {cs first : List Char} {others : List (List Char)}
    (isPieces : pieces separator cs = first :: others) :
    first <+: cs ∧ (others = [] → first = cs) := by
  have whole := intercalate_pieces separator cs
  rw [isPieces] at whole
  cases others with
  | nil =>
      rw [List.intercalate_singleton] at whole
      exact ⟨whole ▸ List.prefix_refl _, fun _ => whole⟩
  | cons next others =>
      rw [List.intercalate_cons_cons, List.append_assoc] at whole
      exact ⟨⟨_, whole⟩, nofun⟩

/-- Text without separators before a text goes to its first piece. -/
theorem pieces_append {separator : Char} {cs : List Char} (free : separator ∉ cs)
    (rest : List Char) :
    ∃ first others, pieces separator rest = first :: others ∧
      pieces separator (cs ++ rest) = (cs ++ first) :: others := by
  induction cs with
  | nil =>
      obtain ⟨first, others, restPieces, _⟩ := pieces_cons separator separator rest
      exact ⟨first, others, restPieces, restPieces⟩
  | cons c cs inductionHypothesis =>
      rw [List.mem_cons, not_or] at free
      obtain ⟨first, others, restPieces, appended⟩ := inductionHypothesis free.2
      obtain ⟨next, following, isNext, consPieces⟩ := pieces_cons separator c (cs ++ rest)
      rw [isNext, List.cons.injEq] at appended
      refine ⟨first, others, restPieces, ?_⟩
      rw [List.cons_append, consPieces, if_neg fun same => free.1 same.symm, appended.1,
        appended.2]
      rfl

/-- A text without separators is its only piece. -/
theorem pieces_of_not_mem {separator : Char} {cs : List Char} (free : separator ∉ cs) :
    pieces separator cs = [cs] := by
  obtain ⟨first, others, isPieces, appended⟩ := pieces_append free []
  rw [pieces, List.cons.injEq] at isPieces
  rw [List.append_nil] at appended
  rw [appended, ← isPieces.1, ← isPieces.2, List.append_nil]

/-- Texts on both sides of a separator are cut on their own. -/
theorem pieces_separated (separator : Char) (cs rest : List Char) :
    pieces separator (cs ++ separator :: rest) = pieces separator cs ++ pieces separator rest := by
  induction cs with
  | nil => simp [pieces]
  | cons c cs inductionHypothesis =>
      obtain ⟨first, others, isPieces, allPieces⟩ := pieces_cons separator c cs
      obtain ⟨joined, following, isJoined, allJoined⟩ :=
        pieces_cons separator c (cs ++ separator :: rest)
      rw [inductionHypothesis, isPieces, List.cons_append, List.cons.injEq] at isJoined
      rw [List.cons_append, allJoined, allPieces, ← isJoined.1, ← isJoined.2]
      split <;> rfl

/-- Texts without separators are the pieces of the text that joins them. -/
theorem pieces_intercalate {separator : Char} {texts : List (List Char)} (nonempty : texts ≠ [])
    (free : ∀ text ∈ texts, separator ∉ text) :
    pieces separator ([separator].intercalate texts) = texts := by
  induction texts with
  | nil => contradiction
  | cons text rest inductionHypothesis =>
      rw [List.forall_mem_cons] at free
      cases rest with
      | nil => simpa using pieces_of_not_mem free.1
      | cons next rest =>
          have restPieces := inductionHypothesis (List.cons_ne_nil _ _) free.2
          rw [List.intercalate_cons_cons, List.append_assoc, List.singleton_append]
          obtain ⟨first, others, isPieces, appended⟩ :=
            pieces_append free.1 (separator :: [separator].intercalate (next :: rest))
          rw [pieces, if_pos (beq_self_eq_true _), restPieces, List.cons.injEq] at isPieces
          rw [appended, ← isPieces.1, ← isPieces.2, List.append_nil]

/-- Texts that are joined by the separator are cut apart again. -/
theorem pieces_joined {separator : Char} {joint : String} (isSeparator : joint.toList = [separator])
    {texts : List String} (nonempty : texts ≠ []) (free : ∀ text ∈ texts, separator ∉ text.toList) :
    (pieces separator (joint.intercalate texts).toList).map String.ofList = texts := by
  have cut : pieces separator (joint.intercalate texts).toList = texts.map String.toList := by
    rw [String.toList_intercalate, isSeparator]
    exact pieces_intercalate (by simpa using nonempty) (List.forall_mem_map.mpr free)
  rw [cut, List.map_map]
  exact List.map_id'' (fun _ => String.ofList_toList) texts

/-- The text before and after the first `separator`. -/
def cutFirst? (separator : Char) : List Char → Option (List Char × List Char)
  | [] => none
  | c :: rest =>
      if c == separator then some ([], rest)
      else (cutFirst? separator rest).map fun (before, after) => (c :: before, after)

/-- The text after the last `separator`, or all of it. -/
def afterLast (separator : Char) (cs : List Char) : List Char :=
  (cs.reverse.takeWhile (· != separator)).reverse

/-- The text before the first `separator`, or all of it. -/
def beforeFirst (separator : Char) (cs : List Char) : List Char :=
  cs.takeWhile (· != separator)

/-- A word is taken up to the first character that does not belong to it. -/
theorem takeWhile_word {isPart : Char → Bool} {word rest : List Char}
    (isWord : ∀ c ∈ word, isPart c = true) (stops : ∀ c ∈ rest.head?, isPart c = false) :
    (word ++ rest).takeWhile isPart = word ∧ (word ++ rest).dropWhile isPart = rest := by
  rw [List.takeWhile_append_of_pos isWord, List.dropWhile_append_of_pos isWord]
  cases rest with
  | nil => simp
  | cons c rest => simp [stops c rfl]

/-- The text after its first `count` bytes, if a character ends there. -/
def afterBytes? : Nat → List Char → Option (List Char)
  | 0, cs => some cs
  | _ + 1, [] => none
  | count + 1, c :: rest =>
      if c.utf8Size ≤ count + 1 then afterBytes? (count + 1 - c.utf8Size) rest else none

theorem afterBytes?_append {count : Nat} {cs rest : List Char}
    (found : afterBytes? count cs = some rest) (more : List Char) :
    afterBytes? count (cs ++ more) = some (rest ++ more) := by
  fun_induction afterBytes? count cs with
  | case1 cs =>
      cases found
      rw [afterBytes?]
  | case2 => cases found
  | case3 count c cs fits inductionHypothesis =>
      rw [List.cons_append, afterBytes?, if_pos fits]
      exact inductionHypothesis found
  | case4 => cases found

def occursIn (mark : List Char) : List Char → Bool
  | [] => mark.isEmpty
  | c :: rest => mark.isPrefixOf (c :: rest) || occursIn mark rest

theorem occursIn_iff (mark cs : List Char) : occursIn mark cs = true ↔ mark <:+: cs := by
  induction cs with
  | nil => rw [occursIn, List.isEmpty_iff, List.infix_nil]
  | cons c rest inductionHypothesis =>
      rw [occursIn, Bool.or_eq_true, List.isPrefixOf_iff_prefix, inductionHypothesis,
        List.infix_cons_iff]

theorem isPrefixOf?_eq_none {beginning cs : List Char}
    (differs : beginning.isPrefixOf cs = false) : beginning.isPrefixOf? cs = none := by
  induction beginning generalizing cs with
  | nil => cases differs
  | cons c beginning inductionHypothesis =>
      cases cs with
      | nil => rfl
      | cons d rest =>
          rw [List.isPrefixOf, Bool.and_eq_false_iff] at differs
          change (if c == d then beginning.isPrefixOf? rest else none) = none
          split
          · rename_i same
            exact inductionHypothesis (differs.resolve_left (by simp [same]))
          · rfl

/-- The text cut at a mark, from left to right and without overlaps, when the next `skip`
characters still belong to a mark that was found. -/
def piecesAtFrom (mark : List Char) (skip : Nat) : List Char → List (List Char)
  | [] => [[]]
  | c :: rest =>
      match skip with
      | skip + 1 => piecesAtFrom mark skip rest
      | 0 =>
          if mark.isPrefixOf (c :: rest) then [] :: piecesAtFrom mark (mark.length - 1) rest
          else
            match piecesAtFrom mark 0 rest with
            | [] => [[c]]
            | first :: others => (c :: first) :: others

/-- The text cut at the leftmost occurrences of a non-empty mark that do not overlap. -/
def piecesAt (mark cs : List Char) : List (List Char) :=
  piecesAtFrom mark 0 cs

/-- The line without the carriage return that stands before its line feed. -/
def dropReturn (line : List Char) : List Char :=
  if line.getLast? == some '\r' then line.dropLast else line

/-- Lines end at a line feed, together with a carriage return before it; an end of text after a
line feed starts no further line. -/
def lines (cs : List Char) : List (List Char) :=
  let parts := pieces '\n' cs
  let ended := parts.dropLast.map dropReturn
  match parts.getLast? with
  | some (c :: last) => ended ++ [c :: last]
  | _ => ended

end Formwork.Text
