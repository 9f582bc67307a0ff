/-
This file reads the arguments of the command line.
-/

import Formwork.Text.Pieces

namespace Formwork

inductive Command where
  | compile (rules : String) (manual : Option String)
  | directives (input : String)
  | inferExample (input : String)
  | hydrate (schema : String) (state : Option String)
  | payload (schema : String) (state : Option String)
  | applyText (state edit : String)
deriving DecidableEq

structure Invocation where
  command : Command
  output : Option String := none
  compact : Bool := false
  config : Option String := none
deriving DecidableEq

/-- Why there is nothing to run. -/
inductive Stop where
  | misuse
  | version
deriving DecidableEq

namespace Arguments

inductive Switch where
  | verbose
  | output
  | format
  | config
  | manual
  | state
deriving DecidableEq

/-- The switches that were given on one level, with their values. -/
abbrev Given := List (Switch × String)

def value? (given : Given) (switch : Switch) : Option String :=
  (given.find? (·.1 = switch)).map (·.2)

/-- The switches by their long names. -/
def longNames : List (String × Switch) :=
  [("verbose", .verbose), ("output", .output), ("format", .format), ("config", .config),
    ("manual", .manual), ("state", .state)]

/-- The switches that stand before the command and after it. -/
def everywhere : List Switch :=
  [.verbose, .output, .format, .config]

/-- A format is one of two words, and no file has an empty name. -/
def accepts (switch : Switch) (value : String) : Bool :=
  match switch with
  | .verbose => true
  | .format => value == "pretty" || value == "compact"
  | _ => !value.isEmpty

/-- A switch is given at most once on a level. -/
def give (given : Given) (switch : Switch) (value : String) : Except Stop Given :=
  if accepts switch value && !given.any (·.1 = switch) then .ok ((switch, value) :: given)
  else .error .misuse

/-- Whether an argument is a value. A lone dash is one. -/
def isValue (argument : String) : Bool :=
  argument == "-" || argument.toList.head? != some '-'

/-- The switches after reading one, whose value may be the next argument. -/
def giveNext (given : Given) (switch : Switch) : List String → Except Stop (Given × List String)
  | [] => .error .misuse
  | value :: rest =>
      if isValue value then (give given switch value).map (·, rest) else .error .misuse

/-- A long switch after its dashes. -/
def readLong (allowed : List Switch) (versioned : Bool) (given : Given) (body : List Char)
    (rest : List String) : Except Stop (Given × List String) :=
  let (name, attached) :=
    match Text.cutFirst? '=' body with
    | some (name, value) => (String.ofList name, some (String.ofList value))
    | none => (String.ofList body, none)
  if versioned && name == "version" then
    .error (if attached.isNone then .version else .misuse)
  else
    match (longNames.find? (·.1 == name)).map (·.2) with
    | none => .error .misuse
    | some switch =>
        if !allowed.contains switch then .error .misuse
        else
          match switch, attached with
          | .verbose, none => (give given .verbose "").map (·, rest)
          | .verbose, some _ => .error .misuse
          | switch, some value => (give given switch value).map (·, rest)
          | switch, none => giveNext given switch rest

/-- Short switches after their dash. -/
def readShort (versioned : Bool) (given : Given) (rest : List String) :
    List Char → Except Stop (Given × List String)
  | [] => .ok (given, rest)
  | 'v' :: letters => do readShort versioned (← give given .verbose "") rest letters
  | 'V' :: _ => .error (if versioned then .version else .misuse)
  | ['o'] => giveNext given .output rest
  | 'o' :: '=' :: value => (give given .output (String.ofList value)).map (·, rest)
  | 'o' :: value => (give given .output (String.ofList value)).map (·, rest)
  | _ => .error .misuse

/-- An argument that is no value. -/
def readSwitch (allowed : List Switch) (versioned : Bool) (given : Given) (argument : String)
    (rest : List String) : Except Stop (Given × List String) :=
  match argument.toList with
  | '-' :: '-' :: body => readLong allowed versioned given body rest
  | '-' :: letters => readShort versioned given rest letters
  | _ => .error .misuse

/-- The arguments before the name of the command, this name, and the arguments after it. -/
def readTop : Nat → Given → List String → Except Stop (Given × String × List String)
  | 0, _, _ => .error .misuse
  | _, _, [] => .error .misuse
  | fuel + 1, given, argument :: rest =>
      if isValue argument then .ok (given, argument, rest)
      else if argument == "--" then .error .misuse
      else do
        let (given, rest) ← readSwitch everywhere true given argument rest
        readTop fuel given rest

/-- The arguments of a command: its switches and its values. -/
def readCommand (allowed : List Switch) :
    Nat → Given → List String → List String → Except Stop (Given × List String)
  | 0, _, _, _ => .error .misuse
  | _, given, values, [] => .ok (given, values)
  | fuel + 1, given, values, argument :: rest =>
      if isValue argument then readCommand allowed fuel given (values ++ [argument]) rest
      else if argument == "--" then .ok (given, values ++ rest)
      else do
        let (given, rest) ← readSwitch allowed false given argument rest
        readCommand allowed fuel given values rest

/-- The switches that a command adds. -/
def ownSwitches (name : String) : List Switch :=
  if name == "compile" then [.manual]
  else if name == "hydrate" || name == "payload" then [.state]
  else []

def command? (name : String) (given : Given) (values : List String) : Option Command :=
  match name, values with
  | "compile", [rules] => some (.compile rules (value? given .manual))
  | "directives", [input] => some (.directives input)
  | "example", [input] => some (.inferExample input)
  | "hydrate", [schema] => some (.hydrate schema (value? given .state))
  | "payload", [schema] => some (.payload schema (value? given .state))
  | "apply-json", [state, edit] => some (.applyText state edit)
  | _, _ => none

/-- What the arguments ask for. A switch after the command goes before one in front of it. -/
def read (arguments : List String) : Except Stop Invocation := do
  let (outer, name, rest) ← readTop (arguments.length + 1) [] arguments
  let (inner, values) ←
    readCommand (everywhere ++ ownSwitches name) (rest.length + 1) [] [] rest
  if values.any (·.isEmpty) then .error .misuse
  else
    match command? name inner values with
    | none => .error .misuse
    | some command =>
        let chosen (switch : Switch) := value? inner switch <|> value? outer switch
        .ok {
          command := command
          output := chosen .output
          compact := chosen .format == some "compact"
          config := chosen .config }

end Arguments

end Formwork
