import Highlight.CommandLine.Program

/-!
# The command line

Reads files and the environment for the program, and prints what it answers.
-/

namespace Highlight.Program

/-- Why a file could not be read. -/
def fileError : IO.Error → FileError
  | .noFileOrDirectory .. => .missing
  | .inappropriateType .. => .isDirectory
  | e => .other (toString e)

/-- The text of a file. -/
def readFile (path : String) : IO (Except FileError String) := do
  try
    return Text.ofBytes (← IO.FS.readBinFile path)
  catch e =>
    return .error (fileError e)

end Highlight.Program

open Highlight in
def main (args : List String) : IO UInt32 := do
  match ← Program.run Program.readFile (← IO.getEnv "HOME") args with
  | .ok output =>
    IO.print (String.ofList output)
    return 0
  | .error e =>
    IO.eprintln ("Error: " ++ e.message)
    return 1
