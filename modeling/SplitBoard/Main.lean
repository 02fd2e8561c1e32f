import SplitBoard.Cli.Program
import SplitBoard.Toml.Standard

/-!
# The executable

Reads the files that the program asks for, and prints what it comes to.
-/

namespace SplitBoard.Cli

/-- The fault that a failed access stands for. -/
def faultOf : IO.Error → ReadFault
  | .noFileOrDirectory .. => .notFound
  | .permissionDenied .. => .permissionDenied
  | .invalidArgument _ 36 _ => .nameTooLong
  | .inappropriateType _ 20 _ => .notDirectory
  | .inappropriateType _ 21 _ => .isDirectory
  | error => .other (toString error)

/-- Read a file of the system. -/
def readSystemFile (path : String) : IO (Except ReadFault (Array UInt8)) := do
  try
    return .ok (← IO.FS.readBinFile path).data
  catch error =>
    return .error (faultOf error)

/-- Answer every question about a file. -/
def serve {α : Type} : Reading α → IO α
  | .done a => return a
  | .ask path next => do
    let answer ← readSystemFile path
    serve (next answer)

/-- Run the program and print what it comes to. -/
def execute (words : List String) : IO UInt32 := do
  let outcome ← serve (program Toml.library words)
  (← IO.getStdout).putStr outcome.stdout
  (← IO.getStderr).putStr outcome.stderr
  return outcome.exit.toUInt32

end SplitBoard.Cli

/-- Run the program on the words of the command line. -/
def main (words : List String) : IO UInt32 :=
  SplitBoard.Cli.execute words
