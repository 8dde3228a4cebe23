import LinearProgram.Command.Plan

namespace LinearProgram

/-!
# The program

The command line on the files of the system. The words of the command line, the
file that the command reads, and the file that it saves are all that is decided
here; everything else is the command's plan.
-/

/-- Why the system refuses a file. -/
def FileError.ofSystem : IO.Error → FileError
  | .noFileOrDirectory _ _ _ => .notFound
  | error => .refused (toString error)

/-- Read a file of the system as text. -/
def readSystemFile (name : String) : IO (Except FileError String) := do
  try
    let bytes ← IO.FS.readBinFile name
    return (Contents.ofBytes bytes).read
  catch error =>
    return .error (.ofSystem error)

/-- Write a file of the system. -/
def writeSystemFile (name text : String) : IO (Except FileError Unit) := do
  try
    IO.FS.writeFile name text
    return .ok ()
  catch error =>
    return .error (.ofSystem error)

/-- Show what a command wrote, and give its exit code. -/
def Command.Outcome.show (outcome : Command.Outcome) : IO UInt32 := do
  IO.print outcome.output
  IO.eprint outcome.errors
  return UInt32.ofNat outcome.code

/-- Carry out a command on the files of the system. -/
def Command.execute (command : Command) : IO UInt32 := do
  let contents ← match command.input? with
    | some name => readSystemFile name
    | none => pure (.error .notFound)
  match command.plan fun _ => contents with
  | .finish outcome => outcome.show
  | .save file text =>
      let result ← writeSystemFile file text
      (Command.Plan.saved file result).show

end LinearProgram

/-- Carry out the command that the words of the command line stand for. -/
def main (words : List String) : IO UInt32 :=
  match LinearProgram.Command.parse? words with
  | some command => command.execute
  | none => do
      IO.eprintln "usage: (check | vars | matrices | dump | read) [ARGUMENTS]"
      return 2
