import LinearProgram.Problem.Matrices
import LinearProgram.Text.Numeral

namespace LinearProgram.Dump

/-!
# Writing a dump

A dump is a text that holds the matrices of a problem. Each matrix makes up a
section, `name=[`, its rows on lines of their own, `]`, and an empty line. The
restrictions on the variables of a dual follow on numbered lines.
-/

/-- The opening of a section. -/
def header (name : MatrixName) : List Char :=
  name.text.toList ++ ['=', '[']

/-- A section with the given rows. -/
def sectionText (name : MatrixName) (rows : List (List Char)) : List Char :=
  header name ++ List.intercalate ['\n'] rows ++ [']', '\n', '\n']

/-- The row of a matrix: its entries with spaces between them. -/
def rowText (row : List Int) : List Char :=
  List.intercalate [' '] (row.map Numeral.ofInt)

/-- The line of the restriction on the variable with a given index. -/
def restrictionLine (index : Nat) (restriction : Restriction) : List Char :=
  ['w', '_'] ++ Numeral.ofNat index ++ [' '] ++ restriction.label.toList ++ ['\n']

/-- The lines of restrictions whose indices start at a given one. -/
def restrictionLines (index : Nat) : List Restriction → List Char
  | [] => []
  | restriction :: rest =>
      restrictionLine index restriction ++ restrictionLines (index + 1) rest

/-- The section of a vector. -/
def vectorSection (name : MatrixName) (entries : List Int) : List Char :=
  sectionText name (entries.map Numeral.ofInt)

/-- The characters of a dump. -/
def characters (matrices : Matrices) : List Char :=
  sectionText .a (matrices.a.map rowText) ++
    vectorSection .b matrices.b ++
    vectorSection .c matrices.c ++
    vectorSection .eqin matrices.eqinCodes ++
    vectorSection .minMax matrices.minMax ++
    restrictionLines 1 (matrices.varConstr.getD [])

/-- The dump of the matrices of a problem. -/
def write (matrices : Matrices) : String :=
  String.ofList (characters matrices)

end LinearProgram.Dump
