/-
This file compiles the schema of a unit from its rules or its manual parameters.
-/

import Formwork.Directive
import Formwork.Rule.Scan
import Formwork.Schema.Tree

namespace Formwork

/-- The field that a manual parameter declares. Its description may say that it is required or
nullable. -/
def ManualParam.leaf (parameter : ManualParam) : SchemaNode :=
  let lower := Text.lowercase parameter.description.toList
  .leaf {
    key := FieldInfo.leafKey parameter.key
    type := .ofDeclared parameter.type
    required := Text.occursIn "required".toList lower
    nullable := Text.occursIn "nullable".toList lower
    description :=
      if parameter.description.isEmpty then none else some parameter.description }

/-- The schema of manual parameters. -/
def compileManual (options : CompileOptions) (parameters : List ManualParam) : List SchemaNode :=
  assemble options (parameters.map fun parameter => (parameter.key, parameter.leaf))

/-- The schema of a unit. Manual parameters, if there are any, replace its rules. -/
def compileUnit (options : CompileOptions) (rules : RuleSet) (manual : List ManualParam) :
    List SchemaNode :=
  if manual.isEmpty then rules.compile options else compileManual options manual

/-- The schema of a unit whose rules come from a source. -/
def RuleSource.compile (options : CompileOptions) (unit : RuleSource)
    (manual : List ManualParam) : List SchemaNode :=
  compileUnit options unit.rules manual

end Formwork
