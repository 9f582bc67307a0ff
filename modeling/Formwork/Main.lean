/-
This file connects the command line to the files of the system.
-/

import Formwork.CommandLine.Run

namespace Formwork

/-- Why the system refused to read or write a file. -/
def FileError.ofSystem : IO.Error → FileError
  | .noFileOrDirectory .. => .notFound
  | .noSuchThing .. => .notFound
  | .inappropriateType _ 21 _ => .isADirectory
  | .inappropriateType .. => .notADirectory
  | .invalidArgument _ 36 _ => .nameTooLong
  | error => .other (toString error)

def readSystem (path : String) : IO (Except FileError (List UInt8)) := do
  try
    return .ok (← IO.FS.readBinFile path).toList
  catch error => return .error (.ofSystem error)

/-- The reader of files whose content is known. -/
def FileReader.ofContents (contents : List (String × Except FileError (List UInt8))) : FileReader :=
  fun path => ((contents.find? (·.1 == path)).map (·.2)).getD (.error .notFound)

def writeSystem (path text : String) : IO (Except FileError Unit) := do
  try
    IO.FS.writeFile path text
    return .ok ()
  catch error => return .error (.ofSystem error)

def report (chain : List String) : IO UInt32 := do
  match chain with
  | [] => return 1
  | first :: causes =>
      IO.eprintln ("Error: " ++ first)
      unless causes.isEmpty do IO.eprintln "\nCaused by:"
      for cause in causes do IO.eprintln ("    " ++ cause)
      return 1

/-- The invocation on the files that it names. -/
def Invocation.perform (invocation : Invocation) : IO UInt32 := do
  let contents ← invocation.inputs.mapM fun path => return (path, ← readSystem path)
  match invocation.text (.ofContents contents) with
  | .error failure => report failure.chain
  | .ok text =>
      match invocation.output with
      | none => do
          IO.print text
          return 0
      | some path =>
          match ← writeSystem path text with
          | .ok () => return 0
          | .error cause => report (Failure.unwritten path cause).chain

end Formwork

def main (arguments : List String) : IO UInt32 := do
  match Formwork.Arguments.read arguments with
  | .error .version => do
      IO.print Formwork.versionText
      return 0
  | .error .misuse => do
      IO.eprintln "Misuse of the command line"
      return 2
  | .ok invocation => invocation.perform
