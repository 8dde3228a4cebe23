import LinearProgram.Formulation.Assembly
import LinearProgram.Formulation.Diagnosis
import LinearProgram.Formulation.Normal
import LinearProgram.Problem.Dual

namespace LinearProgram

/-!
# Formulations

A formulation is a problem under construction: its normal lines, and what the
last check of them found. Matrices may be asked for once a check has found no
errors. A check cuts the lines at the terminator, so a second check misses it.
-/

/-- The lines of a problem with what is known about them. -/
structure Formulation where
  lines : List String
  /-- The errors that the last check found, if there was one. -/
  review : Option (List Formulation.Diagnostic)
  /-- The index of the terminator that was found last. -/
  terminator : Option Nat
  deriving Repr, DecidableEq

namespace Formulation

/-- The formulation with the given lines, not checked yet. -/
def ofLines (lines : List String) : Formulation :=
  ⟨lines, none, none⟩

/-- Whether a formulation has no lines. -/
def isEmpty (formulation : Formulation) : Bool :=
  formulation.lines.isEmpty

/-- The errors that the last check found; none before the first check. -/
def diagnostics (formulation : Formulation) : List Diagnostic :=
  formulation.review.getD []

/-- The formulation that a file or a text states, exactly one of which has to be given. -/
def ofSource
    (read : String → Except FileError String)
    (file text : Option String)
    (delimiter : String) : Except Failure Formulation :=
  match file, text with
  | some name, none =>
      match read name with
      | .ok contents => .ok (ofLines (linesOfFile contents))
      | .error error => .error (.file error)
  | none, some text => (linesOfText text delimiter).map ofLines
  | none, none => .error (.argument .noSource)
  | some _, some _ => .error (.argument .twoSources)

/-- The formulation after a check of its lines. -/
def check (formulation : Formulation) : Except Failure Formulation := do
  let diagnosis ← diagnose formulation.lines
  return ⟨diagnosis.lines, some diagnosis.diagnostics,
    diagnosis.terminator <|> formulation.terminator⟩

/-- The report of the errors that the last check found. -/
def reportText (formulation : Formulation) : String :=
  report (formulation.diagnostics.map Diagnostic.message)

/-- The variables of the line with a given index. -/
def lineVariables (formulation : Formulation) (line : Nat) : Except Failure VariableSet :=
  match formulation.lines[line]? with
  | some text => VariableSet.ofTokens (tokenize text)
  | none => .error (.lineIndex line formulation.lines.length)

/-- The names of all variables of the problem. -/
def allVariables (formulation : Formulation) : Except Failure (List String) :=
  (widestVariables formulation.lines).map VariableSet.extended

/-- Fail unless there are lines whose last check found no errors. -/
def requireValid (formulation : Formulation) : Except Failure Unit :=
  if formulation.lines.isEmpty then
    .error .emptyProblem
  else
    match formulation.review with
    | none => .error .notChecked
    | some [] => .ok ()
    | some diagnostics => .error (.invalidProblem diagnostics.length)

/-- The dimensions of a problem without errors. -/
def dimensions (formulation : Formulation) : Except Failure Dimensions := do
  formulation.requireValid
  dimensionsOf formulation.lines

/-- The name that a nonempty spelling stands for. -/
def matrixName (spelling : String) : Except Failure MatrixName :=
  if spelling = "" then
    .error (.argument .unnamedMatrix)
  else
    match MatrixName.ofText? spelling with
    | some name => .ok name
    | none => .error (.argument (.unknownMatrix spelling))

/-- One matrix of a problem without errors. -/
def matrix (formulation : Formulation) (spelling : String) : Except Failure MatrixValue := do
  let name ← matrixName spelling
  let dimensions ← formulation.dimensions
  assembleOne formulation.lines dimensions name

/-- The matrices of a problem without errors. -/
def matrices (formulation : Formulation) : Except Failure Matrices := do
  let dimensions ← formulation.dimensions
  assemble formulation.lines dimensions

/-- The matrices of the dual of a problem without errors. -/
def dualMatrices (formulation : Formulation) : Except Failure Matrices :=
  formulation.matrices.map Matrices.dual

/-- The matrices of a problem or of its dual. -/
def matricesOf (formulation : Formulation) (dual : Bool) : Except Failure Matrices :=
  if dual then formulation.dualMatrices else formulation.matrices

/-- One matrix of the dual of a problem without errors. -/
def dualMatrix (formulation : Formulation) (spelling : String) : Except Failure MatrixValue := do
  let name ← matrixName spelling
  let dual ← formulation.dualMatrices
  match dual.get? name with
  | some value => return value
  | none => throw (.argument (.notInDual name))

end Formulation

end LinearProgram
