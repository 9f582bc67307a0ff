/-
This file reads and writes options and manual parameters as JSON.
-/

import Formwork.Codec.Record
import Formwork.CompileOptions
import Formwork.Directive

namespace Formwork

open Document

namespace CompileOptions

def names : List String :=
  ["grouping-keywords", "dynamic-types", "framework-namespace", "wildcard", "directive-prefix"]

/-- Missing options have their default values. -/
def ofDocument? (document : Document) : Option CompileOptions := do
  let part ← document.record? names
  let standard : CompileOptions := {}
  some {
    groupingKeywords := ← orElse standard.groupingKeywords (list? text?) (part "grouping-keywords")
    dynamicTypes := ← orElse standard.dynamicTypes (list? text?) (part "dynamic-types")
    frameworkNamespace := ← orElse standard.frameworkNamespace text? (part "framework-namespace")
    wildcard := ← orElse standard.wildcard text? (part "wildcard")
    directivePrefix := ← orElse standard.directivePrefix text? (part "directive-prefix") }

def toJson (options : CompileOptions) : Json :=
  .obj [
    ("grouping-keywords", .ofTexts options.groupingKeywords),
    ("dynamic-types", .ofTexts options.dynamicTypes),
    ("framework-namespace", .str options.frameworkNamespace),
    ("wildcard", .str options.wildcard),
    ("directive-prefix", .str options.directivePrefix)]

end CompileOptions

namespace ManualParam

def names : List String :=
  ["type", "key", "description"]

def ofDocument? (document : Document) : Option ManualParam := do
  let part ← document.record? names
  some {
    type := ← (part "type").bind text?
    key := ← (part "key").bind text?
    description := ← orElse "" text? (part "description") }

def toJson (parameter : ManualParam) : Json :=
  .obj [("type", .str parameter.type), ("key", .str parameter.key),
    ("description", .str parameter.description)]

end ManualParam

namespace ManualHeader

def toJson (header : ManualHeader) : Json :=
  .obj [("key", .str header.key), ("description", .str header.description)]

end ManualHeader

namespace Directives

def toJson (directives : Directives) : Json :=
  let parameters (list : List ManualParam) : Json := .arr (list.map ManualParam.toJson)
  .obj [
    ("body", parameters directives.body),
    ("query", parameters directives.query),
    ("headers", .arr (directives.headers.map ManualHeader.toJson)),
    ("responses",
      .obj (directives.responses.entries.map fun (status, list) => (status, parameters list)))]

end Directives

end Formwork
