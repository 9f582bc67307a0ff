/-
This file finds the type of a field among its tokens.
-/

import Formwork.CompileOptions
import Formwork.FieldType
import Formwork.Text.Pieces
import Formwork.Text.Trim

namespace Formwork

/-- How strongly a token tells the type, strongest first. -/
inductive TypeTier where
  | file
  | native
  | dynamicFormat
  | dateRange
  | classSuffix
  | fallback
deriving DecidableEq

structure TypeResolution where
  type : FieldType
  tier : TypeTier
deriving DecidableEq

namespace TypeTier

def rank : TypeTier → Nat
  | file => 0
  | native => 1
  | dynamicFormat => 2
  | dateRange => 3
  | classSuffix => 4
  | fallback => 5

def name : TypeTier → String
  | file => "File"
  | native => "Native"
  | dynamicFormat => "DynamicFormat"
  | dateRange => "DateRange"
  | classSuffix => "ClassSuffix"
  | fallback => "Fallback"

end TypeTier

namespace TypeResolution

def fallback : TypeResolution :=
  ⟨.text, .fallback⟩

/-- The stronger of two resolutions, the first of two that are as strong. -/
def join (first second : TypeResolution) : TypeResolution :=
  if second.tier.rank < first.tier.rank then second else first

theorem join_assoc (first second third : TypeResolution) :
    (first.join second).join third = first.join (second.join third) := by
  grind [join]

theorem join_fallback (resolution : TypeResolution) : resolution.join fallback = resolution := by
  cases resolution with
  | mk type tier => cases tier <;> rfl

end TypeResolution

/-- Whether a text begins with one of the beginnings. -/
def beginsWithAny (beginnings : List String) (cs : List Char) : Bool :=
  beginnings.any fun beginning => beginning.toList.isPrefixOf cs

def endsWithAny (endings : List String) (cs : List Char) : Bool :=
  endings.any fun ending => ending.toList.isSuffixOf cs

def fileRules : List String :=
  ["file", "image"]

def fileBeginnings : List String :=
  ["mimes:", "mimetypes:", "extensions:", "dimensions:"]

def fileEndings : List String :=
  ["\\file", "\\image"]

def dateBeginnings : List String :=
  ["date_format:", "before:", "after:"]

def isFileIndicator (token : List Char) : Bool :=
  fileRules.contains (String.ofList token) || beginsWithAny fileBeginnings token ||
    endsWithAny fileEndings token

/-- The name of the rule that a token gives parameters to. -/
def ruleName (token : List Char) : String :=
  String.ofList (Text.beforeFirst ':' token)

/-- What a trimmed token in lower case tells about the type. -/
def classify? (options : CompileOptions) (token : List Char) : Option TypeResolution :=
  if isFileIndicator token then some ⟨.file, .file⟩
  else
    match FieldType.nativeRules.find? (ruleName token) with
    | some type => some ⟨type, .native⟩
    | none =>
        if options.isDynamicType (ruleName token) then
          some ⟨.other (ruleName token), .dynamicFormat⟩
        else if beginsWithAny dateBeginnings token then some ⟨.date, .dateRange⟩
        else if endsWithAny ["\\password"] token then some ⟨.password, .classSuffix⟩
        else if endsWithAny ["\\email"] token then some ⟨.email, .classSuffix⟩
        else none

/-- What a token tells about the type; a blank one tells nothing. -/
def tokenResolution? (options : CompileOptions) (token : String) : Option TypeResolution :=
  match Text.lowercase (Text.trim token.toList) with
  | [] => none
  | lower => classify? options lower

/-- The type that the strongest token tells, a text if none does. -/
def resolveType (options : CompileOptions) (tokens : List String) : TypeResolution :=
  (tokens.filterMap (tokenResolution? options)).foldl TypeResolution.join .fallback

end Formwork
