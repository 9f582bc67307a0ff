/-
This file defines the options of compiling rules into a schema.
-/

import Formwork.Text.Glob
import Formwork.Text.Lowercase

namespace Formwork

structure CompileOptions where
  /-- A list of scalars becomes a free-form object if its key contains one of these. -/
  groupingKeywords : List String := ["meta"]
  /-- Rules that become the type of their field under their own name. -/
  dynamicTypes : List String := ["uuid", "ulid", "ip", "ipv4", "ipv6", "mac_address"]
  /-- The beginning of the class names of built-in rules. -/
  frameworkNamespace : String := "Illuminate\\"
  /-- The path segment for any element. -/
  wildcard : String := "*"
  /-- What the tags of directives begin with. -/
  directivePrefix : String := "api"
deriving DecidableEq

namespace CompileOptions

def isGroupingKey (options : CompileOptions) (key : String) : Bool :=
  let lower := Text.lowercase key.toList
  options.groupingKeywords.any fun keyword =>
    !keyword.isEmpty && Text.occursIn (Text.lowercase keyword.toList) lower

def isDynamicType (options : CompileOptions) (rule : String) : Bool :=
  options.dynamicTypes.contains rule

end CompileOptions

end Formwork
