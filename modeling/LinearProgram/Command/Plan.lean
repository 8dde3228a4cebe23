import LinearProgram.Command.Arguments
import LinearProgram.Command.Json
import LinearProgram.Dump.File
import LinearProgram.Formulation.Basic

namespace LinearProgram.Command

/-!
# Carrying out a command

A command reads at most one file and writes at most one. What it comes to,
given the files that it can read, is a plan: either an outcome right away, or a
file to be saved, whose success decides the outcome.
-/

/--
The exit code of a command and what it writes to its two output streams. Log lines
are left out: whether they are written among the errors, and at what time of day, is
for the surroundings of the program to say.
-/
structure Outcome where
  code : Nat
  output : String
  errors : String
  deriving Repr, DecidableEq

/-- What a command was about when it failed. -/
inductive Activity where
  | readingProblem
  | checkingProblem
  | readingVariables
  | buildingMatrices
  | writingMatrices
  | readingMatrices
  deriving Repr, DecidableEq

/-- How a failure during an activity is announced. -/
def Activity.announcement : Activity → String
  | .readingProblem => "Error reading problem"
  | .checkingProblem => "Error checking problem"
  | .readingVariables => "Error reading variables"
  | .buildingMatrices => "Error building matrices"
  | .writingMatrices => "Error writing matrices"
  | .readingMatrices => "Error reading matrices"

namespace Outcome

/-- The outcome of a command that succeeds with some output. -/
def success (output : String) : Outcome :=
  ⟨0, output, ""⟩

/-- The outcome of a command that fails during an activity. -/
def failed (activity : Activity) (failure : Failure) : Outcome :=
  ⟨1, "", activity.announcement ++ ": " ++ failure.message ++ "\n"⟩

end Outcome

/-- What a command comes to. -/
inductive Plan where
  | finish (outcome : Outcome)
  /-- Save a text in a file. -/
  | save (file text : String)
  deriving Repr, DecidableEq

/-- The outcome of saving a file. -/
def Plan.saved (file : String) : Except FileError Unit → Outcome
  | .ok _ => .success ("✓ wrote " ++ file ++ "\n")
  | .error error => .failed .writingMatrices (.file error)

/-- The result of an activity, or the outcome of its failure. -/
def during (activity : Activity) (result : Except Failure α) : Except Outcome α :=
  result.mapError (Outcome.failed activity)

/-- The problem that a source states. -/
def openProblem (read : String → Except FileError String) (source : Source) :
    Except Outcome Formulation :=
  during .readingProblem <|
    Formulation.ofSource read source.file source.text source.delimiter

/-- The problem that a source states, after a check. -/
def openChecked (read : String → Except FileError String) (source : Source) :
    Except Outcome Formulation := do
  let formulation ← openProblem read source
  during .checkingProblem formulation.check

/-- The problem that a source states, after a check that found no errors. -/
def openValid (read : String → Except FileError String) (source : Source) :
    Except Outcome Formulation := do
  let formulation ← openChecked read source
  if formulation.diagnostics.isEmpty then
    return formulation
  else
    throw ⟨1, "", formulation.reportText ++ "\n"⟩

/-- The size of a problem without errors, or nothing if it has none. -/
def sizeText (formulation : Formulation) : String :=
  match formulation.dimensions with
  | .ok dimensions =>
      s!"  {dimensions.constraintCount} constraints\n  {dimensions.variableCount} variables\n"
  | .error _ => ""

/-- The outcome of a check. -/
def checkOutcome (formulation : Formulation) : Outcome :=
  ⟨if formulation.diagnostics.isEmpty then 0 else 1,
    formulation.reportText ++ "\n" ++ sizeText formulation, ""⟩

/-- Matrices in the given format. -/
def print (matrices : Matrices) : Format → String
  | .dump => Dump.write matrices
  | .json => matricesJson matrices ++ "\n"

/-- Words on a line with spaces between them. -/
def wordLine (words : List String) : String :=
  " ".intercalate words ++ "\n"

/-- The variables of a line. -/
def variableSetText (set : VariableSet) : String :=
  "existing: " ++ wordLine set.existing ++ "extended: " ++ wordLine set.extended

/-- What a command comes to, or the outcome of its failure. -/
def attempt (read : String → Except FileError String) : Command → Except Outcome Plan
  | .check source => do
      let formulation ← openChecked read source
      return .finish (checkOutcome formulation)
  | .listVariables source (some line) => do
      let formulation ← openProblem read source
      let set ← during .readingVariables (formulation.lineVariables line)
      return .finish (.success (variableSetText set))
  | .listVariables source none => do
      let formulation ← openProblem read source
      let names ← during .readingVariables formulation.allVariables
      return .finish (.success (wordLine names))
  | .matrices source dual format => do
      let formulation ← openValid read source
      let matrices ← during .buildingMatrices (formulation.matricesOf dual)
      return .finish (.success (print matrices format))
  | .dump source output dual => do
      let formulation ← openValid read source
      let matrices ← during .writingMatrices (formulation.matricesOf dual)
      return .save output (Dump.write matrices)
  | .read file dual format => do
      let matrices ← during .readingMatrices (Dump.ofFile (read file) dual)
      return .finish (.success (print matrices format))

/-- What a command comes to, given the files that it can read. -/
def plan (read : String → Except FileError String) (command : Command) : Plan :=
  match command.attempt read with
  | .ok plan => plan
  | .error outcome => .finish outcome

/-- The file that a command reads. -/
def input? : Command → Option String
  | .check source => source.file
  | .listVariables source _ => source.file
  | .matrices source _ _ => source.file
  | .dump source _ _ => source.file
  | .read file _ _ => some file

/-- Carry out a command on a folder. -/
def run (command : Command) (folder : Folder) : Outcome × Folder :=
  match command.plan folder.read with
  | .finish outcome => (outcome, folder)
  | .save file text =>
      match folder.write file text with
      | .ok written => (Plan.saved file (.ok ()), written)
      | .error error => (Plan.saved file (.error error), folder)

end LinearProgram.Command
