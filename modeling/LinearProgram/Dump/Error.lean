import LinearProgram.Problem.MatrixName
import LinearProgram.Text.Numeral

namespace LinearProgram.Dump

/-!
# Why a dump cannot be read
-/

/-- A disagreement between the sizes of the parts of a dump. -/
inductive ShapeError where
  /-- The direction section does not hold exactly one value. -/
  | directionCount (values : Nat)
  /-- The coefficient rows and the right-hand sides differ in number. -/
  | rowCount (rows entries : Nat)
  /-- A coefficient row, counted from one, does not have one entry per variable. -/
  | rowWidth (row columns entries : Nat)
  /-- The relations and the right-hand sides differ in number. -/
  | relationCount (relations entries : Nat)
  /-- The restriction lines and the variables differ in number. -/
  | restrictionCount (lines count : Nat)
  deriving Repr, DecidableEq

/-- What a shape error says to a user. -/
def ShapeError.message : ShapeError → String
  | .directionCount values => s!"MinMax holds {values} values, expected 1"
  | .rowCount rows entries => s!"A has {rows} rows but b has {entries} entries"
  | .rowWidth row columns entries =>
      s!"row {row} of A has {columns} columns but c has {entries} entries"
  | .relationCount relations entries =>
      s!"Eqin has {relations} entries but b has {entries}"
  | .restrictionCount lines count =>
      s!"{lines} restriction lines for {count} dual variables"

/-- The first thing found wrong with a dump. -/
inductive Error where
  /-- No line starts the section. -/
  | missingSection (name : MatrixName)
  /-- The section is not closed. -/
  | unterminatedSection (name : MatrixName)
  /-- A word of the section is not a numeral that fits. -/
  | invalidValue (name : MatrixName) (word : String)
  /-- A line of the section holds several values. -/
  | notAVector (name : MatrixName) (count : Nat)
  /-- A value of the section is not one of its codes. -/
  | invalidCode (name : MatrixName) (code : Int)
  /-- A restriction line is malformed or out of order. -/
  | invalidRestriction (line : String)
  /-- The parts do not fit together. -/
  | shape (error : ShapeError)
  deriving Repr, DecidableEq

/-- What an error says to a user. -/
def Error.message : Error → String
  | .missingSection name => s!"Missing section '{name.text}=['"
  | .unterminatedSection name => s!"Section '{name.text}' is not closed with ']'"
  | .invalidValue name word => s!"Invalid value '{word}' in section '{name.text}'"
  | .notAVector name count =>
      s!"Expected one value per line in section '{name.text}', found {count}"
  | .invalidCode name code => s!"Invalid {name.text} code: {code}"
  | .invalidRestriction line => s!"Invalid variable restriction line: {line}"
  | .shape error => "Inconsistent dimensions: " ++ error.message

end LinearProgram.Dump
