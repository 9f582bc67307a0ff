/-
This file names the patterns that texts are matched with. An engine makes matchers of them, but it may
refuse a pattern.
-/

namespace Formwork

/-- A template: characters that stand for themselves, and wildcards between them. -/
abbrev Text.Glob := List (Option Char)

inductive Pattern where
  /-- Whole texts that a template stands for. -/
  | template (glob : Text.Glob)
  /-- Lines that hold a tag, and behind it what a directive with this tag says. -/
  | directive (tag : List Char)

/-- What makes matchers of patterns. How much a matcher may take is up to the engine, so the engine
decides which patterns compile. -/
class PatternEngine where
  compiles : Pattern → Bool

end Formwork
