/-
This file maps texts to lower case.
-/

import Formwork.Text.Character
import Formwork.Text.Table.Ignorable

namespace Formwork.Text

def isCased (c : Char) : Bool :=
  if c.toNat < 0x80 then c.isAlpha else inRanges casedRanges c.toNat

/-- The characters that the rule for the final sigma looks past. -/
def isCaseIgnorable (c : Char) : Bool :=
  if c.toNat < 0x80 then
    c == '\'' || c == '.' || c == ':' || c == '^' || c.toNat == 0x60
  else inRanges caseIgnorableRanges c.toNat

/-- The lower case of one character on its own. Only a dotted capital I becomes two characters. -/
def lowerChar (c : Char) : List Char :=
  if c.toNat < 0x80 then [c.toLower]
  else if c.toNat == 0x130 then ['i', '\u0307']
  else
    match loweringRuns.find? fun (first, last, step, _) =>
        first ≤ c.toNat && c.toNat ≤ last && (c.toNat - first) % step == 0 with
    | some (_, _, _, shift) => [Char.ofNat (c.toNat + shift).toNat]
    | none => [c]

/-- Whether a cased character comes first, after characters that are looked past. -/
def meetsCased (cs : List Char) : Bool :=
  match cs.dropWhile isCaseIgnorable with
  | [] => false
  | c :: _ => isCased c

/-- A capital sigma ends a word when a cased character comes before it and none after it. -/
def lowerSigma (reversedBefore after : List Char) : Char :=
  if meetsCased reversedBefore && !meetsCased after then 'ς' else 'σ'

/-- The lower case of the second text, with the first one, reversed, standing before it. -/
def lowercaseAfter (reversedBefore : List Char) : List Char → List Char
  | [] => []
  | c :: rest =>
      (if c == 'Σ' then [lowerSigma reversedBefore rest] else lowerChar c) ++
        lowercaseAfter (c :: reversedBefore) rest

def lowercase (cs : List Char) : List Char :=
  lowercaseAfter [] cs

/-- Nothing but a sigma is written with regard to what follows it. -/
theorem prefix_lowercaseAfter_append {mark : List Char} (noSigma : ∀ c ∈ mark, c ≠ 'σ' ∧ c ≠ 'ς')
    {before cs : List Char} (begins : mark <+: lowercaseAfter before cs) (more : List Char) :
    mark <+: lowercaseAfter before (cs ++ more) := by
  induction cs generalizing mark before with
  | nil => simp [List.prefix_nil.mp begins]
  | cons c rest inductionHypothesis =>
      rw [lowercaseAfter] at begins
      rw [List.cons_append, lowercaseAfter]
      cases mark with
      | nil => exact List.nil_prefix
      | cons first mark =>
          have notSigma : (c == 'Σ') = false := by
            refine Bool.eq_false_iff.mpr fun isSigma => ?_
            rw [if_pos isSigma, List.singleton_append, List.cons_prefix_cons] at begins
            have written := noSigma first List.mem_cons_self
            rw [begins.1, lowerSigma] at written
            split at written
            · exact written.2 rfl
            · exact written.1 rfl
          rw [notSigma, if_neg Bool.false_ne_true] at begins ⊢
          obtain ⟨others, written⟩ := begins
          rcases List.append_eq_append_iff.mp written with ⟨left, whole, _⟩ | ⟨left, whole, rest⟩
          · rw [whole, List.append_assoc]
            exact List.prefix_append _ _
          · rw [whole, List.prefix_append_right_inj]
            have later : ∀ c ∈ left, c ≠ 'σ' ∧ c ≠ 'ς' := fun c member =>
              noSigma c (whole ▸ List.mem_append_right _ member)
            exact inductionHypothesis later ⟨others, rest.symm⟩

theorem prefix_lowercase_append {mark cs : List Char} (noSigma : ∀ c ∈ mark, c ≠ 'σ' ∧ c ≠ 'ς')
    (begins : mark <+: lowercase cs) (more : List Char) : mark <+: lowercase (cs ++ more) :=
  prefix_lowercaseAfter_append noSigma begins more

/-- A character without a lower case of its own ends the lower case of a text that it ends. -/
theorem getLast?_lowercaseAfter {c : Char} (notSigma : c ≠ 'Σ') (lower : lowerChar c = [c])
    (before cs : List Char) : (lowercaseAfter before (cs ++ [c])).getLast? = some c := by
  induction cs generalizing before with
  | nil => simp [lowercaseAfter, notSigma, lower]
  | cons first rest inductionHypothesis =>
      rw [List.cons_append, lowercaseAfter, List.getLast?_append, inductionHypothesis, Option.some_or]

end Formwork.Text
