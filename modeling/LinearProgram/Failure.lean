import LinearProgram.Dump.Error
import LinearProgram.Folder

namespace LinearProgram

/-!
# Why a request about a problem fails
-/

/-- Something wrong with the arguments of a request. -/
inductive ArgumentError where
  /-- The delimiter between lines is empty. -/
  | emptyDelimiter
  /-- Neither a file nor a text is given. -/
  | noSource
  /-- A file and a text are both given. -/
  | twoSources
  /-- The name of a matrix is empty. -/
  | unnamedMatrix
  /-- No matrix has the given name. -/
  | unknownMatrix (name : String)
  /-- The restrictions are asked of a problem that is not a dual. -/
  | restrictionsOfPrimal
  /-- The matrix is not part of the dual. -/
  | notInDual (name : MatrixName)
  deriving Repr, DecidableEq

/-- What an argument error says to a user. -/
def ArgumentError.message : ArgumentError → String
  | .emptyDelimiter => "delimiter must not be empty"
  | .noSource => "no 'text' or 'filename' specified"
  | .twoSources => "'text' and 'filename' are mutually exclusive"
  | .unnamedMatrix => "desired matrix must be specified by name"
  | .unknownMatrix name => s!"Unknown matrix: '{name}'"
  | .restrictionsOfPrimal => "VarConstr only exists for the dual problem"
  | .notInDual name => s!"matrix '{name.text}' is not part of the dual problem"

/-- What a line lacks. -/
inductive LineError where
  | noVariables
  | noRightHandSide
  | noRelation
  | noDirection
  deriving Repr, DecidableEq

/-- What a line error says to a user. -/
def LineError.message : LineError → String
  | .noVariables => "no variables"
  | .noRightHandSide => "no right-hand side"
  | .noRelation => "no constraint relation"
  | .noDirection => "no optimization direction"

/-- Why a request about a problem fails. -/
inductive Failure where
  | argument (error : ArgumentError)
  /-- The problem has no lines. -/
  | emptyProblem
  /-- The lines have not been checked. -/
  | notChecked
  /-- The check of the lines found errors. -/
  | invalidProblem (count : Nat)
  /-- There is no line with the given index. -/
  | lineIndex (index count : Nat)
  /-- A variable lies beyond the width of the problem. -/
  | variableOutOfRange (index width : Nat)
  /-- A numeral is malformed or too large. -/
  | invalidNumber (text : String)
  /-- A line, counted from zero, lacks something. -/
  | malformedLine (line : Nat) (error : LineError)
  /-- A dump is malformed. -/
  | dump (error : Dump.Error)
  /-- A file cannot be read or written. -/
  | file (error : FileError)
  deriving Repr, DecidableEq

namespace Failure

/-- What a failure says to a user. -/
def message : Failure → String
  | .argument error => "Invalid arguments: " ++ error.message
  | .emptyProblem => "Given LP is empty, no data is available"
  | .notChecked => "Given LP may contain errors. Search for errors first."
  | .invalidProblem count =>
      s!"Given LP contains {count} syntax error(s). Can't calculate matrices."
  | .lineIndex index count => s!"Line index {index} is out of range for {count} lines"
  | .variableOutOfRange index width =>
      s!"Variable x{index} is outside the problem width of {width} variables"
  | .invalidNumber text => "Invalid number: " ++ text
  | .malformedLine line error => s!"Malformed line {line}: " ++ error.message
  | .dump error => "Matrix dump is malformed: " ++ error.message
  | .file error => error.message

/-- Whether a failure is due to the problem not having passed a check. -/
def isInvalidProblem : Failure → Bool
  | .notChecked => true
  | .invalidProblem _ => true
  | _ => false

end Failure

end LinearProgram
