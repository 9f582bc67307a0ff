/-
This file reads JSON texts from their bytes.
-/

import Formwork.Json.Document
import Formwork.Json.Literal

namespace Formwork.Document

/-- Brackets may stand inside each other this often. -/
def maximalDepth : Nat := 127

def isSpace (byte : UInt8) : Bool :=
  byte == 0x20 || byte == 0x09 || byte == 0x0a || byte == 0x0d

def skipSpace (bytes : List UInt8) : List UInt8 :=
  bytes.dropWhile isSpace

def isDigit (byte : UInt8) : Bool :=
  0x30 ≤ byte && byte ≤ 0x39

def digit (byte : UInt8) : Nat :=
  (byte - 0x30).toNat

def hexValue? (byte : UInt8) : Option Nat :=
  if isDigit byte then some (digit byte)
  else if 0x61 ≤ byte && byte ≤ 0x66 then some ((byte - 0x61).toNat + 10)
  else if 0x41 ≤ byte && byte ≤ 0x46 then some ((byte - 0x41).toNat + 10)
  else none

/-- The unit of sixteen bits that four hexadecimal digits spell. -/
def readUnit? : List UInt8 → Option (Nat × List UInt8)
  | first :: second :: third :: fourth :: rest => do
      let unit := 4096 * (← hexValue? first) + 256 * (← hexValue? second) +
        16 * (← hexValue? third) + (← hexValue? fourth)
      some (unit, rest)
  | _ => none

/-- The character that the letter after a backslash stands for. -/
def escaped? (letter : UInt8) : Option UInt8 :=
  if letter == 0x22 || letter == 0x5c || letter == 0x2f then some letter
  else if letter == 0x62 then some 0x08
  else if letter == 0x66 then some 0x0c
  else if letter == 0x6e then some 0x0a
  else if letter == 0x72 then some 0x0d
  else if letter == 0x74 then some 0x09
  else none

def encodeChar (point : Nat) : List UInt8 :=
  (String.ofList [Char.ofNat point]).toUTF8.toList

def isLeading (unit : Nat) : Bool :=
  0xd800 ≤ unit && unit < 0xdc00

def isTrailing (unit : Nat) : Bool :=
  0xdc00 ≤ unit && unit < 0xe000

/-- The unit that the escape at the front spells, if one stands there. -/
def readEscapedUnit? : List UInt8 → Option (Nat × List UInt8)
  | 0x5c :: 0x75 :: rest => readUnit? rest
  | _ => none

/-- The bytes of a string up to its closing quote, behind the reversed bytes before them. They are
missing if a unit of a pair stands alone. -/
def readBytes? (reversed : Option (List UInt8)) :
    Nat → List UInt8 → Option (Option (List UInt8) × List UInt8)
  | 0, _ => none
  | _ + 1, [] => none
  | fuel + 1, byte :: rest =>
      let add (bytes : List UInt8) := reversed.map (bytes.reverse ++ ·)
      if byte == 0x22 then some (reversed.map List.reverse, rest)
      else if byte < 0x20 then none
      else if byte != 0x5c then readBytes? (add [byte]) fuel rest
      else
        match rest with
        | [] => none
        | letter :: rest =>
            if letter != 0x75 then do readBytes? (add [← escaped? letter]) fuel rest
            else do
              let (unit, rest) ← readUnit? rest
              if isTrailing unit then readBytes? none fuel rest
              else if isLeading unit then
                match readEscapedUnit? rest with
                | some (trailing, after) =>
                    if isTrailing trailing then
                      let point := 0x10000 + (unit - 0xd800) * 0x400 + (trailing - 0xdc00)
                      readBytes? (add (encodeChar point)) fuel after
                    else readBytes? none fuel rest
                | none => readBytes? none fuel rest
              else readBytes? (add (encodeChar unit)) fuel rest

def decodeText? (bytes : List UInt8) : Option String :=
  String.fromUTF8? bytes.toByteArray

/-- A string after its opening quote. -/
def readString? (fuel : Nat) (bytes : List UInt8) : Option (Option String × List UInt8) :=
  (readBytes? (some []) fuel bytes).map fun (content, rest) => (content.bind decodeText?, rest)

def takeDigits (bytes : List UInt8) : List Nat × List UInt8 :=
  ((bytes.takeWhile isDigit).map digit, bytes.dropWhile isDigit)

def digitsValue (digits : List Nat) : Nat :=
  digits.foldl (fun value digit => 10 * value + digit) 0

/-- The digits of a whole number: a zero stands alone. -/
def readWhole? (bytes : List UInt8) : Option (List Nat × List UInt8) :=
  match takeDigits bytes with
  | ([], _) => none
  | (0 :: _ :: _, _) => none
  | (digits, rest) => some (digits, rest)

def readFraction? : List UInt8 → Option (Option (List Nat) × List UInt8)
  | 0x2e :: rest =>
      match takeDigits rest with
      | ([], _) => none
      | (digits, rest) => some (some digits, rest)
  | rest => some (none, rest)

def readPower? (negative : Bool) (bytes : List UInt8) : Option (Option Int × List UInt8) :=
  match takeDigits bytes with
  | ([], _) => none
  | (digits, rest) =>
      some (some (if negative then -(digitsValue digits : Int) else digitsValue digits), rest)

def readExponent? : List UInt8 → Option (Option Int × List UInt8)
  | byte :: rest =>
      if byte == 0x65 || byte == 0x45 then
        match rest with
        | 0x2b :: digits => readPower? false digits
        | 0x2d :: digits => readPower? true digits
        | digits => readPower? false digits
      else some (none, byte :: rest)
  | [] => some (none, [])

/-- A number after its sign. -/
def readNumber? (negative : Bool) (bytes : List UInt8) : Option (Document × List UInt8) := do
  let (whole, rest) ← readWhole? bytes
  let (fraction, rest) ← readFraction? rest
  let (exponent, rest) ← readExponent? rest
  match Literal.number? ⟨negative, whole, fraction, exponent⟩ with
  | some number => some (num number, rest)
  | none => some (unusable, rest)

/-- The rest of the text after a word. -/
def afterWord? (word : String) (bytes : List UInt8) : Option (List UInt8) :=
  word.toUTF8.toList.isPrefixOf? bytes

mutual

/-- A value inside `depth` brackets. -/
def readValue? (depth : Nat) : Nat → List UInt8 → Option (Document × List UInt8)
  | 0, _ => none
  | fuel + 1, bytes =>
      match skipSpace bytes with
      | [] => none
      | byte :: rest =>
          if byte == 0x22 then
            (readString? fuel rest).map fun (content, rest) =>
              ((content.map str).getD unusable, rest)
          else if byte == 0x5b then
            match skipSpace rest with
            | 0x5d :: rest => some (enclosed depth (arr []), rest)
            | rest => do
                let (items, rest) ← readItems? (depth + 1) fuel rest
                some (enclosed depth (arr items), rest)
          else if byte == 0x7b then
            match skipSpace rest with
            | 0x7d :: rest => some (enclosed depth (obj []), rest)
            | rest => do
                let (members, rest) ← readMembers? (depth + 1) fuel rest
                some (enclosed depth (obj members), rest)
          else if byte == 0x2d then readNumber? true rest
          else if isDigit byte then readNumber? false (byte :: rest)
          else if byte == 0x6e then (afterWord? "ull" rest).map fun rest => (null, rest)
          else if byte == 0x74 then (afterWord? "rue" rest).map fun rest => (bool true, rest)
          else if byte == 0x66 then (afterWord? "alse" rest).map fun rest => (bool false, rest)
          else none

/-- Items up to the closing bracket. -/
def readItems? (depth : Nat) : Nat → List UInt8 → Option (List Document × List UInt8)
  | 0, _ => none
  | fuel + 1, bytes => do
      let (item, rest) ← readValue? depth fuel bytes
      match skipSpace rest with
      | 0x2c :: rest => do
          let (items, rest) ← readItems? depth fuel rest
          some (item :: items, rest)
      | 0x5d :: rest => some ([item], rest)
      | _ => none

/-- Members up to the closing bracket. -/
def readMembers? (depth : Nat) :
    Nat → List UInt8 → Option (List (Option String × Document) × List UInt8)
  | 0, _ => none
  | fuel + 1, bytes =>
      match skipSpace bytes with
      | 0x22 :: rest => do
          let (name, rest) ← readString? fuel rest
          match skipSpace rest with
          | 0x3a :: rest => do
              let (value, rest) ← readValue? depth fuel rest
              match skipSpace rest with
              | 0x2c :: rest => do
                  let (members, rest) ← readMembers? depth fuel rest
                  some ((name, value) :: members, rest)
              | 0x7d :: rest => some ([(name, value)], rest)
              | _ => none
          | _ => none
      | _ => none

/-- Brackets inside `depth` others are unusable if they are too deep. -/
def enclosed (depth : Nat) (document : Document) : Document :=
  if depth < maximalDepth then document else unusable

end

/-- The document that a text holds, with nothing but white space around it. -/
def ofBytes? (bytes : List UInt8) : Option Document := do
  let (document, rest) ← readValue? 0 (2 * bytes.length + 2) bytes
  if (skipSpace rest).isEmpty then some document else none

def ofText? (text : String) : Option Document :=
  ofBytes? text.toUTF8.toList

end Formwork.Document

namespace Formwork.Json

/-- The value that a text stands for. -/
def ofText? (text : String) : Option Json :=
  (Document.ofText? text).bind Document.value?

end Formwork.Json
