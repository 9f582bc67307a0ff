/-
This file shows where a text can be cut: behind any of its characters, and nowhere else. A text
whose lower case begins with a word of ASCII can be cut behind as many bytes as the word has
letters, if these are not the ones that a character outside of ASCII becomes.
-/

import Formwork.Proofs.Text.Lowercase
import Formwork.Text.Pieces

namespace Formwork.Text

/-- The bytes that a text takes. -/
def byteCount : List Char → Nat
  | [] => 0
  | c :: rest => c.utf8Size + byteCount rest

theorem byteCount_cons (c : Char) (rest : List Char) :
    byteCount (c :: rest) = c.utf8Size + byteCount rest :=
  rfl

theorem utf8Size_of_ascii {c : Char} (ascii : c.toNat < 0x80) : c.utf8Size = 1 := by
  rw [Char.utf8Size_eq_one_iff, UInt32.le_iff_toNat_le]
  exact Nat.le_of_lt_succ ascii

theorem byteCount_eq_zero_iff {cs : List Char} : byteCount cs = 0 ↔ cs = [] := by
  cases cs with
  | nil => exact iff_of_true rfl rfl
  | cons c rest =>
      have positive := c.utf8Size_pos
      rw [byteCount_cons]
      exact iff_of_false (by omega) (List.cons_ne_nil c rest)

/-- A text is cut behind characters that take as many bytes. -/
theorem afterBytes?_eq_some_iff {count : Nat} {cs rest : List Char} :
    afterBytes? count cs = some rest ↔
      ∃ before, cs = before ++ rest ∧ byteCount before = count := by
  -- characters that take some bytes begin with the first one
  have behindFirst : ∀ {count : Nat} {c : Char} {cs : List Char},
      (∃ before, c :: cs = before ++ rest ∧ byteCount before = count + 1) ↔
        ∃ before, cs = before ++ rest ∧ c.utf8Size + byteCount before = count + 1 := by
    intro count c cs
    constructor
    · rintro ⟨before, whole, taken⟩
      cases before with
      | nil => cases taken
      | cons first before =>
          obtain ⟨rfl, sameRest⟩ := List.cons.inj whole
          exact ⟨before, sameRest, byteCount_cons c before ▸ taken⟩
    · rintro ⟨before, rfl, taken⟩
      exact ⟨c :: before, rfl, byteCount_cons c before ▸ taken⟩
  fun_induction afterBytes? count cs with
  | case1 cs =>
      constructor
      · rintro rest
        exact ⟨[], Option.some.inj rest, rfl⟩
      · rintro ⟨before, rfl, taken⟩
        rw [byteCount_eq_zero_iff.mp taken, List.nil_append]
  | case2 count =>
      refine iff_of_false (by simp) ?_
      rintro ⟨before, whole, taken⟩
      rw [(List.append_eq_nil_iff.mp whole.symm).1] at taken
      cases taken
  | case3 count c cs fits inductionHypothesis =>
      refine inductionHypothesis.trans (Iff.trans ?_ behindFirst.symm)
      refine exists_congr fun before => and_congr_right fun _ => ?_
      omega
  | case4 count c cs exceeds =>
      refine iff_of_false (by simp) ?_
      rw [behindFirst]
      rintro ⟨before, -, taken⟩
      omega

/-- Words of ASCII that only letters of ASCII begin in lower case. An I with a dot becomes an i that
its dot stands behind, and the sign for the kelvin a k. -/
structure IsPlainMark (mark : List Char) : Prop where
  ascii : ∀ c ∈ mark, c.toNat < 0x80
  noKelvin : 'k' ∉ mark
  noDotted : mark.getLast? ≠ some 'i'

theorem IsPlainMark.tail {c : Char} {mark : List Char} (plain : IsPlainMark (c :: mark)) :
    IsPlainMark mark where
  ascii := fun d member => plain.ascii d (List.mem_cons_of_mem c member)
  noKelvin := fun member => plain.noKelvin (List.mem_cons_of_mem c member)
  noDotted := by
    cases mark with
    | nil => nofun
    | cons d mark => exact List.getLast?_cons_cons ▸ plain.noDotted

/-- The first letter of such a word is the lower case of one byte. -/
theorem IsPlainMark.first {d c : Char} {mark before cs : List Char}
    (plain : IsPlainMark (d :: mark))
    (begins : d :: mark <+: lowercaseAfter before (c :: cs)) :
    c.toNat < 0x80 ∧ mark <+: lowercaseAfter (c :: before) cs := by
  have isAscii := plain.ascii d List.mem_cons_self
  rw [lowercaseAfter] at begins
  split at begins
  · rw [List.singleton_append, List.cons_prefix_cons, lowerSigma] at begins
    split at begins <;> exact absurd (begins.1 ▸ isAscii) (by decide)
  have written : d ∈ lowerChar c := by
    obtain ⟨first, others, isFirst⟩ := List.exists_cons_of_ne_nil (lowerChar_ne_nil c)
    rw [isFirst, List.cons_append, List.cons_prefix_cons] at begins
    rw [isFirst, begins.1]
    exact List.mem_cons_self
  rcases ascii_of_mem_lowerChar written isAscii with ⟨ascii, -⟩ | ⟨rfl, rfl⟩ | ⟨-, rfl⟩
  · rw [lowerChar, if_pos ascii, List.singleton_append, List.cons_prefix_cons] at begins
    exact ⟨ascii, begins.2⟩
  · have isDotted : lowerChar '\u0130' = ['i', '\u0307'] := by decide
    rw [isDotted, List.cons_append, List.cons_prefix_cons] at begins
    cases mark with
    | nil => exact absurd rfl plain.noDotted
    | cons next mark =>
        rw [List.cons_append, List.cons_prefix_cons] at begins
        have nextAscii := plain.tail.ascii next List.mem_cons_self
        exact absurd (begins.2.1 ▸ nextAscii) (by decide)
  · exact absurd List.mem_cons_self plain.noKelvin

/-- A text can be cut behind what is such a word in lower case. -/
theorem IsPlainMark.exists_afterBytes? {mark : List Char} (plain : IsPlainMark mark)
    {before cs : List Char} (begins : mark <+: lowercaseAfter before cs) :
    ∃ rest, afterBytes? mark.length cs = some rest := by
  suffices ∃ named rest, cs = named ++ rest ∧ byteCount named = mark.length by
    obtain ⟨named, rest, whole, taken⟩ := this
    exact ⟨rest, afterBytes?_eq_some_iff.mpr ⟨named, whole, taken⟩⟩
  induction mark generalizing before cs with
  | nil => exact ⟨[], cs, rfl, rfl⟩
  | cons d mark inductionHypothesis =>
      cases cs with
      | nil => cases List.prefix_nil.mp begins
      | cons c cs =>
          obtain ⟨ascii, begins⟩ := plain.first begins
          obtain ⟨named, rest, rfl, taken⟩ := inductionHypothesis plain.tail begins
          refine ⟨c :: named, rest, rfl, ?_⟩
          rw [byteCount_cons, utf8Size_of_ascii ascii, taken, List.length_cons, Nat.add_comm]

/-- A text can be cut behind its first character. -/
theorem afterBytes?_utf8Size (c : Char) (rest : List Char) :
    afterBytes? c.utf8Size (c :: rest) = some rest :=
  afterBytes?_eq_some_iff.mpr ⟨[c], rfl, rfl⟩

end Formwork.Text
