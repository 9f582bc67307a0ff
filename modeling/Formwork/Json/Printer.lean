/-
This file writes JSON values, on one line or indented.
-/

import Formwork.Json.Basic

namespace Formwork.Json

def hexDigit (digit : Nat) : Char :=
  Nat.digitChar digit

/-- The character inside quotes: only the quote, the backslash and control characters are escaped. -/
def quotedChar (c : Char) : List Char :=
  if c = '"' then ['\\', '"']
  else if c = '\\' then ['\\', '\\']
  else if c.toNat < 0x20 then
    match c.toNat with
    | 0x08 => ['\\', 'b']
    | 0x09 => ['\\', 't']
    | 0x0a => ['\\', 'n']
    | 0x0c => ['\\', 'f']
    | 0x0d => ['\\', 'r']
    | point => ['\\', 'u', '0', '0', hexDigit (point / 16), hexDigit (point % 16)]
  else [c]

/-! Every writer puts its text in front of the text that follows. -/

def writeChars : List Char → List Char → List Char
  | [], rest => rest
  | c :: cs, rest => quotedChar c ++ writeChars cs rest

def writeText (text : String) (rest : List Char) : List Char :=
  '"' :: writeChars text.toList ('"' :: rest)

mutual

/-- The text of a value on one line, without spaces. -/
def write : Json → List Char → List Char
  | null, rest => 'n' :: 'u' :: 'l' :: 'l' :: rest
  | bool true, rest => 't' :: 'r' :: 'u' :: 'e' :: rest
  | bool false, rest => 'f' :: 'a' :: 'l' :: 's' :: 'e' :: rest
  | num value, rest => value.text.toList ++ rest
  | str text, rest => writeText text rest
  | arr items, rest => '[' :: writeItems items (']' :: rest)
  | obj members, rest => '\x7b' :: writeMembers members ('\x7d' :: rest)

def writeItems : List Json → List Char → List Char
  | [], rest => rest
  | [item], rest => write item rest
  | item :: next :: items, rest => write item (',' :: writeItems (next :: items) rest)

def writeMembers : List (String × Json) → List Char → List Char
  | [], rest => rest
  | [(name, value)], rest => writeText name (':' :: write value rest)
  | (name, value) :: next :: members, rest =>
      writeText name (':' :: write value (',' :: writeMembers (next :: members) rest))

end

def compact (value : Json) : String :=
  String.ofList (value.write [])

/-- A new line inside `depth` brackets, with two spaces to a bracket. -/
def writeLine (depth : Nat) (rest : List Char) : List Char :=
  '\n' :: (List.replicate (2 * depth) ' ' ++ rest)

mutual

/-- The text of a value that stands inside `depth` brackets. Each item and each member has a line of
its own, and empty brackets have none. -/
def writePretty (depth : Nat) : Json → List Char → List Char
  | arr [], rest => '[' :: ']' :: rest
  | obj [], rest => '\x7b' :: '\x7d' :: rest
  | arr (item :: items), rest =>
      '[' :: writePrettyItems (depth + 1) (item :: items) (writeLine depth (']' :: rest))
  | obj (member :: members), rest =>
      '\x7b' ::
        writePrettyMembers (depth + 1) (member :: members) (writeLine depth ('\x7d' :: rest))
  | scalar, rest => write scalar rest

def writePrettyItems (depth : Nat) : List Json → List Char → List Char
  | [], rest => rest
  | [item], rest => writeLine depth (writePretty depth item rest)
  | item :: next :: items, rest =>
      writeLine depth
        (writePretty depth item (',' :: writePrettyItems depth (next :: items) rest))

def writePrettyMembers (depth : Nat) : List (String × Json) → List Char → List Char
  | [], rest => rest
  | [(name, value)], rest =>
      writeLine depth (writeText name (':' :: ' ' :: writePretty depth value rest))
  | (name, value) :: next :: members, rest =>
      writeLine depth (writeText name (':' :: ' ' :: writePretty depth value
        (',' :: writePrettyMembers depth (next :: members) rest)))

end

/-- The text of a value on many lines, with two spaces to a bracket. -/
def pretty (value : Json) : String :=
  String.ofList (value.writePretty 0 [])

end Formwork.Json
