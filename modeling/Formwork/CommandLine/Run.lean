/-
This file runs the commands on a tree of files.
-/

import Formwork.Codec.Options
import Formwork.Codec.Rule
import Formwork.CommandLine.Arguments
import Formwork.CommandLine.FileTree
import Formwork.Schema.Compile
import Formwork.Schema.Example
import Formwork.Session
import Formwork.SizedEngine

namespace Formwork

/-- Why a command gives no result. -/
inductive Failure where
  | unopened (what path : String) (cause : FileError)
  | unparsed (what path : String)
  | unreadState (path : String) (cause : Error)
  | unreadInput (path reason : String)
  | rejectedEdit (cause : Error)
  | unwritten (path : String) (cause : FileError)
deriving DecidableEq

namespace Failure

/-- The failure and its causes, outermost first. -/
def chain : Failure → List String
  | unopened what path cause =>
      ["Failed to open " ++ what ++ " file: " ++ path, cause.message]
  | unparsed what path => ["Failed to parse " ++ what ++ " from: " ++ path]
  | unreadState path cause => ["Failed to read state from: " ++ path, cause.message]
  | unreadInput path reason => ["Failed to open input file: " ++ path, reason]
  | rejectedEdit cause => ["JSON edit rejected", cause.message]
  | unwritten path cause => ["Failed to create output file: " ++ path, cause.message]

end Failure

/-- What a file name gives when it is read. -/
abbrev FileReader := String → Except FileError (List UInt8)

namespace FileReader

/-- What the JSON text of a file holds. A directory opens, but has no text. -/
def json {Value : Type} (files : FileReader) (what : String) (read? : Document → Option Value)
    (path : String) : Except Failure Value :=
  match files path with
  | .error .isADirectory => .error (.unparsed what path)
  | .error cause => .error (.unopened what path cause)
  | .ok bytes =>
      match (Document.ofBytes? bytes).bind read? with
      | some value => .ok value
      | none => .error (.unparsed what path)

def text (files : FileReader) (path : String) : Except Failure String :=
  match files path with
  | .error cause => .error (.unreadInput path cause.message)
  | .ok bytes =>
      match Document.decodeText? bytes with
      | some text => .ok text
      | none => .error (.unreadInput path "stream did not contain valid UTF-8")

def state (files : FileReader) (path : String) : Except Failure (List InstanceNode) := do
  match SavedState.nodes (← files.json "state" Document.value? path) with
  | .ok nodes => .ok nodes
  | .error cause => .error (.unreadState path cause)

/-- The state of a file that may not be given. -/
def stateOf (files : FileReader) : Option String → Except Failure (List InstanceNode)
  | none => .ok []
  | some path => files.state path

def options (files : FileReader) : Option String → Except Failure CompileOptions
  | none => .ok {}
  | some path => files.json "config" CompileOptions.ofDocument? path

end FileReader

namespace Command

/-- The schemas of everything that a text declares. -/
def declaredSchemas (options : CompileOptions) (directives : Directives) : Json :=
  let schema (parameters : List ManualParam) : Json :=
    .arr (SchemaNode.nodesToJson (compileManual options parameters))
  .obj [
    ("body", schema directives.body),
    ("query", schema directives.query),
    ("headers", .arr (directives.headers.map ManualHeader.toJson)),
    ("responses",
      .obj (directives.responses.entries.map fun (status, parameters) =>
        (status, schema parameters)))]

/-- The fields of a schema file with the state in another file. -/
def reconciled (files : FileReader) (options : CompileOptions) (schema : String)
    (state : Option String) : Except Failure (List InstanceNode) := do
  let nodes ← files.json "schema" SchemaNode.listOfDocument? schema
  .ok (reconcile options nodes (← files.stateOf state))

/-- The parameters that a file declares by hand. -/
def manualParams (files : FileReader) (options : CompileOptions) :
    Option String → Except Failure (List ManualParam)
  | none => .ok []
  | some path => do .ok (Directives.ofText options (← files.text path)).body

def result (files : FileReader) (options : CompileOptions) : Command → Except Failure Json
  | compile rules manual => do
      let rules ← files.json "rules" RuleSet.ofDocument? rules
      let manual ← manualParams files options manual
      .ok (.arr (SchemaNode.nodesToJson (compileUnit options rules manual)))
  | directives input => do
      .ok (declaredSchemas options (Directives.ofText options (← files.text input)))
  | inferExample input => do
      let value ← files.json "example" Document.value? input
      .ok (.arr (SchemaNode.nodesToJson (SchemaNode.ofExample options.wildcard value)))
  | hydrate schema state => do
      .ok (.arr (InstanceNode.nodesToJson (← reconciled files options schema state)))
  | payload schema state => do
      .ok (Formwork.payload (← reconciled files options schema state))
  | applyText state edit => do
      let existing ← files.state state
      match Formwork.applyText options (← files.text edit) existing with
      | .ok nodes => .ok (.arr (InstanceNode.nodesToJson nodes))
      | .error cause => .error (.rejectedEdit cause)

end Command

namespace Invocation

/-- The files that the invocation may read. -/
def inputs (invocation : Invocation) : List String :=
  let named :=
    match invocation.command with
    | .compile rules manual => rules :: manual.toList
    | .directives input => [input]
    | .inferExample input => [input]
    | .hydrate schema state => schema :: state.toList
    | .payload schema state => schema :: state.toList
    | .applyText state edit => [state, edit]
  invocation.config.toList ++ named

/-- The text that the invocation writes. -/
def text (files : FileReader) (invocation : Invocation) : Except Failure String := do
  let options ← files.options invocation.config
  let result ← invocation.command.result files options
  .ok ((if invocation.compact then result.compact else result.pretty) ++ "\n")

end Invocation

/-- What a run leaves behind. -/
structure Outcome where
  exit : Nat
  stdout : String := ""
  chain : List String := []
  tree : FileTree

def versionText : String :=
  "paramforge 0.1.0\n"

/-- A run of the command line on a tree of files. -/
def run (tree : FileTree) (arguments : List String) : Outcome :=
  match Arguments.read arguments with
  | .error .misuse => { exit := 2, tree := tree }
  | .error .version => { exit := 0, stdout := versionText, tree := tree }
  | .ok invocation =>
      match invocation.text tree.read with
      | .error failure => { exit := 1, chain := failure.chain, tree := tree }
      | .ok text =>
          match invocation.output with
          | none => { exit := 0, stdout := text, tree := tree }
          | some path =>
              match tree.write path text.toUTF8.toList with
              | .ok written =>
                  { exit := 0
                    stdout := (written.text? FileTree.standardOutput).getD ""
                    tree := written }
              | .error cause =>
                  { exit := 1, chain := (Failure.unwritten path cause).chain, tree := tree }

end Formwork
