/-
This file shows which tokens readers see as they are: those without a backslash. Any other one is
seen by its last part in snake case, of which nothing may be left.
-/

import Formwork.Proofs.Text.SnakeCase
import Formwork.Resolve.TypeTier
import Formwork.Rule.Token
import Mathlib.Data.List.Nodup

namespace Formwork

/-- A list without repeats, to which a new element is added at the end. -/
theorem foldl_each_once {α : Type} [BEq α] [LawfulBEq α] (added first : List α)
    (distinct : first.Nodup) :
    let all := added.foldl (fun shown a => if shown.contains a then shown else shown ++ [a]) first
    all.Nodup ∧ ∀ a, a ∈ all ↔ a ∈ first ∨ a ∈ added := by
  induction added generalizing first with
  | nil => exact ⟨distinct, fun a => by simp⟩
  | cons next rest inductionHypothesis =>
      rw [List.foldl_cons]
      split
      · rename_i present
        obtain ⟨nodup, members⟩ := inductionHypothesis first distinct
        refine ⟨nodup, fun a => (members a).trans ?_⟩
        rw [List.contains_iff_mem] at present
        simp only [List.mem_cons]
        constructor
        · exact fun either => either.imp_right .inr
        · rintro (inFirst | rfl | inRest)
          · exact .inl inFirst
          · exact .inl present
          · exact .inr inRest
      · rename_i absent
        rw [List.contains_iff_mem] at absent
        obtain ⟨nodup, members⟩ :=
          inductionHypothesis (first ++ [next]) (List.concat_eq_append ▸ distinct.concat absent)
        refine ⟨nodup, fun a => (members a).trans ?_⟩
        simp only [List.mem_append, List.mem_cons, List.not_mem_nil, or_false, or_assoc]

theorem nodup_shownTokens (tokens : List String) : (shownTokens tokens).Nodup :=
  (foldl_each_once (tokens.filterMap shownToken?) [] List.nodup_nil).1

theorem mem_shownTokens {tokens : List String} {shown : String} :
    shown ∈ shownTokens tokens ↔ ∃ token ∈ tokens, shownToken? token = some shown := by
  refine ((foldl_each_once (tokens.filterMap shownToken?) [] List.nodup_nil).2 shown).trans ?_
  rw [List.mem_filterMap]
  simp

section

variable {token : String}

theorem trimmed_eq_empty_iff : Text.trimmed token = "" ↔ Text.trim token.toList = [] := by
  rw [Text.trimmed, ← String.toList_inj, String.toList_ofList, String.toList_empty]

theorem mem_trim_backslash : '\\' ∈ Text.trim token.toList ↔ '\\' ∈ token.toList :=
  ⟨(Text.trim_sublist _).mem, Text.mem_trim (by decide)⟩

theorem shownToken?_of_blank (blank : Text.trimmed token = "") : shownToken? token = none := by
  rw [shownToken?, trimmed_eq_empty_iff.mp blank]

/-- A visible token without a backslash is shown as it is. -/
theorem shownToken?_plain (visible : Text.trimmed token ≠ "") (plain : '\\' ∉ token.toList) :
    shownToken? token = some (Text.trimmed token) := by
  rw [← mem_trim_backslash] at plain
  rw [shownToken?]
  split
  · exact absurd (trimmed_eq_empty_iff.mpr ‹_›) visible
  · rw [if_neg (by simpa using plain)]
    rfl

/-- Any other token is shown by what snake case leaves of its last part. -/
theorem shownToken?_namespaced (namespaced : '\\' ∈ token.toList) :
    shownToken? token =
      some (String.ofList (Text.snakeCase (classBasename (Text.trim token.toList)))) := by
  rw [← mem_trim_backslash] at namespaced
  rw [shownToken?]
  split
  · rename_i blank
    rw [blank] at namespaced
    cases namespaced
  · rw [if_pos (by simpa using namespaced)]

/-- No backslash is shown. -/
theorem not_mem_shownToken {shown : String} (isShown : shownToken? token = some shown) :
    '\\' ∉ shown.toList := by
  by_cases namespaced : '\\' ∈ token.toList
  · obtain rfl := Option.some.inj ((shownToken?_namespaced namespaced).symm.trans isShown)
    rw [String.toList_ofList]
    exact Text.not_mem_snakeCase_backslash _
  · by_cases blank : Text.trimmed token = ""
    · rw [shownToken?_of_blank blank] at isShown
      cases isShown
    · obtain rfl := Option.some.inj ((shownToken?_plain blank namespaced).symm.trans isShown)
      rw [Text.trimmed, String.toList_ofList, mem_trim_backslash]
      exact namespaced

/-- What is shown is blank only if snake case leaves nothing. -/
theorem shown_blank_iff {shown : String} (isShown : shownToken? token = some shown) :
    Text.trimmed shown = "" ↔
      '\\' ∈ token.toList ∧
        ∀ c ∈ classBasename (Text.trim token.toList), Text.isAlphanumeric c = false := by
  by_cases namespaced : '\\' ∈ token.toList
  · obtain rfl := Option.some.inj ((shownToken?_namespaced namespaced).symm.trans isShown)
    rw [trimmed_eq_empty_iff, String.toList_ofList, Text.trim_eq_self, Text.snakeCase_eq_nil_iff]
    · exact (and_iff_right namespaced).symm
    · exact fun c isFirst => Text.isBlank_of_mem_snakeCase (List.mem_of_head? isFirst)
    · exact fun c isLast => Text.isBlank_of_mem_snakeCase (List.mem_of_getLast? isLast)
  · by_cases blank : Text.trimmed token = ""
    · rw [shownToken?_of_blank blank] at isShown
      cases isShown
    · obtain rfl := Option.some.inj ((shownToken?_plain blank namespaced).symm.trans isShown)
      rw [trimmed_eq_empty_iff, Text.trimmed, String.toList_ofList, Text.trim_trim,
        ← trimmed_eq_empty_iff]
      exact iff_of_false blank fun both => namespaced both.1

end

/-- A visible token is shown as it is exactly if it has no backslash, be it in its name or in its
parameters; the others are shown by their last part in snake case. A blank text is shown exactly if
no letter and no number stands behind the last backslash of a token, and no text is shown twice. -/
theorem shownTokens_as_written (tokens : List String) :
    (∀ token ∈ tokens, Text.trimmed token ≠ "" →
      (Text.trimmed token ∈ shownTokens tokens ↔ '\\' ∉ token.toList)) ∧
      (∀ token ∈ tokens, '\\' ∈ token.toList →
        String.ofList (Text.snakeCase (classBasename (Text.trim token.toList))) ∈
          shownTokens tokens) ∧
      ((∃ shown ∈ shownTokens tokens, Text.trimmed shown = "") ↔
        ∃ token ∈ tokens, '\\' ∈ token.toList ∧
          ∀ c ∈ classBasename (Text.trim token.toList), Text.isAlphanumeric c = false) ∧
      (shownTokens tokens).Nodup := by
  refine ⟨fun token member visible => ⟨fun isShown => ?_, fun plain => ?_⟩,
    fun token member namespaced => ?_, ⟨?_, ?_⟩, nodup_shownTokens tokens⟩
  · obtain ⟨source, -, shows⟩ := mem_shownTokens.mp isShown
    have noBackslash := not_mem_shownToken shows
    rwa [Text.trimmed, String.toList_ofList, mem_trim_backslash] at noBackslash
  · exact mem_shownTokens.mpr ⟨token, member, shownToken?_plain visible plain⟩
  · exact mem_shownTokens.mpr ⟨token, member, shownToken?_namespaced namespaced⟩
  · rintro ⟨shown, isShown, blank⟩
    obtain ⟨token, member, shows⟩ := mem_shownTokens.mp isShown
    exact ⟨token, member, (shown_blank_iff shows).mp blank⟩
  · rintro ⟨token, member, both⟩
    have shows := shownToken?_namespaced both.1
    exact ⟨_, mem_shownTokens.mpr ⟨token, member, shows⟩, (shown_blank_iff shows).mpr both⟩

/-- A list of values is shown as it is, and the class of a rule by its name. -/
theorem shownTokens_as_written_status :
    let tokens := ["required", " in:Active,Closed ", "App\\Rules\\StrongPassword", "required"]
    " in:Active,Closed " ∈ tokens ∧ Text.trimmed " in:Active,Closed " ≠ "" ∧
      Text.trimmed " in:Active,Closed " ∈ shownTokens tokens ∧
      "App\\Rules\\StrongPassword" ∈ tokens ∧ '\\' ∈ "App\\Rules\\StrongPassword".toList ∧
      "strong_password" ∈ shownTokens tokens ∧
      shownTokens tokens = ["required", "in:Active,Closed", "strong_password"] := by
  intro tokens
  have member : " in:Active,Closed " ∈ tokens := by decide
  have visible : Text.trimmed " in:Active,Closed " ≠ "" := by decide
  have className : "App\\Rules\\StrongPassword" ∈ tokens := by decide
  have namespaced : '\\' ∈ "App\\Rules\\StrongPassword".toList := by decide
  have name : String.ofList (Text.snakeCase (classBasename
      (Text.trim "App\\Rules\\StrongPassword".toList))) = "strong_password" := by decide +kernel
  obtain ⟨plain, shortened, -, -⟩ := shownTokens_as_written tokens
  exact ⟨member, visible, (plain _ member visible).mpr (by decide), className, namespaced,
    name ▸ shortened _ className namespaced, by decide +kernel⟩

/-- A pattern is shown by what is left of it behind its last backslash, and a name that ends in a
backslash by nothing. -/
theorem pattern_not_shown :
    let tokens := ["regex:/^\\d{5}$/", "App\\Rules\\"]
    ruleName (Text.trim "regex:/^\\d{5}$/".toList) = "regex" ∧
      Text.trimmed "regex:/^\\d{5}$/" ∉ shownTokens tokens ∧ shownTokens tokens = ["d_5", ""] := by
  decide +kernel

end Formwork
