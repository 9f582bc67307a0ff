/-
This file reads the parameters that doc comments declare.
-/

import Formwork.CompileOptions
import Formwork.Pattern
import Formwork.SortedEntries
import Formwork.Text.Pieces
import Formwork.Text.Trim

namespace Formwork

/-- A parameter that is declared by hand. -/
structure ManualParam where
  type : String
  key : String
  description : String := ""
deriving DecidableEq

structure ManualHeader where
  key : String
  description : String := ""
deriving DecidableEq

/-- What one line declares. -/
inductive Directive where
  | body (parameter : ManualParam)
  | query (parameter : ManualParam)
  | response (status : String) (parameter : ManualParam)
  | header (header : ManualHeader)
deriving DecidableEq

/-- What a text declares, with the responses by their status. -/
structure Directives where
  body : List ManualParam := []
  query : List ManualParam := []
  headers : List ManualHeader := []
  responses : SortedEntries (List ManualParam) := .empty
deriving DecidableEq

namespace Directive

/-- The characters of parameter keys. -/
def isKeyChar (c : Char) : Bool :=
  Text.isWordChar c || c == '.' || c == '*'

/-- The characters of header names. -/
def isHeaderChar (c : Char) : Bool :=
  Text.isWordChar c || c == '.' || c == '-'

/-- The longest word of such characters, and what follows it. -/
def word? (isPart : Char → Bool) (cs : List Char) : Option (List Char × List Char) :=
  match cs.takeWhile isPart with
  | [] => none
  | word => some (word, cs.dropWhile isPart)

/-- What follows white space, of which there has to be some. -/
def afterBlank? : List Char → Option (List Char)
  | [] => none
  | c :: rest => if Text.isBlank c then some (Text.trimStart rest) else none

/-- A word behind white space. -/
def nextWord? (isPart : Char → Bool) (cs : List Char) : Option (List Char × List Char) :=
  (afterBlank? cs).bind (word? isPart)

/-- A type, a key and a description. -/
def parameter? (cs : List Char) : Option ManualParam := do
  let (type, rest) ← nextWord? Text.isWordChar cs
  let (key, rest) ← nextWord? isKeyChar rest
  some {
    type := String.ofList (Text.lowercase type)
    key := String.ofList key
    description := String.ofList (Text.trim rest) }

def response? (cs : List Char) : Option Directive := do
  let (status, rest) ← nextWord? Text.isDecimal cs
  (parameter? rest).map (response (String.ofList status))

def header? (cs : List Char) : Option Directive := do
  let (key, rest) ← nextWord? isHeaderChar cs
  some (header ⟨String.ofList key, String.ofList (Text.trim rest)⟩)

/-- How a directive begins. -/
def tag (options : CompileOptions) (name : String) : List Char :=
  let beginning := options.directivePrefix.toList
  '@' :: (if beginning.isEmpty then [] else beginning ++ ['-']) ++ name.toList

/-- The first place in a line where a tag and the content it asks for stand. -/
def findTagged? (tag : List Char) (content? : List Char → Option Directive) :
    List Char → Option Directive
  | [] => none
  | c :: rest =>
      ((tag.isPrefixOf? (c :: rest)).bind content?) <|> findTagged? tag content? rest

/-- The directive of a line. A body parameter anywhere in it goes before a query parameter, this
before a response and this before a header. -/
def ofLine? (options : CompileOptions) (line : List Char) : Option Directive :=
  findTagged? (tag options "bodyParam") (fun cs => (parameter? cs).map body) line <|>
    findTagged? (tag options "queryParam") (fun cs => (parameter? cs).map query) line <|>
    findTagged? (tag options "responseParam") response? line <|>
    findTagged? (tag options "header") header? line

end Directive

namespace Directives

def add (directives : Directives) : Directive → Directives
  | .body parameter => { directives with body := directives.body ++ [parameter] }
  | .query parameter => { directives with query := directives.query ++ [parameter] }
  | .header header => { directives with headers := directives.headers ++ [header] }
  | .response status parameter =>
      let earlier := (directives.responses.find? status).getD []
      { directives with
        responses := directives.responses.put status (earlier ++ [parameter]) }

/-- Whether the patterns of all directives compile. -/
def compiles [PatternEngine] (options : CompileOptions) : Bool :=
  ["bodyParam", "queryParam", "header", "responseParam"].all fun name =>
    PatternEngine.compiles (.directive (Directive.tag options name))

/-- All directives of the lines of a text. There are none if the patterns do not compile. -/
def ofText [PatternEngine] (options : CompileOptions) (text : String) : Directives :=
  if compiles options then
    ((Text.lines text.toList).filterMap (Directive.ofLine? options)).foldl add {}
  else {}

end Directives

end Formwork
