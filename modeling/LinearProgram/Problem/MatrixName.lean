import LinearProgram.Text.Case

namespace LinearProgram

/-!
# Names of the matrices of a problem
-/

/-- The name of one of the matrices that make up a problem. -/
inductive MatrixName where
  /-- The coefficients of the constraints. -/
  | a
  /-- The right-hand sides of the constraints. -/
  | b
  /-- The coefficients of the objective. -/
  | c
  /-- The relations of the constraints. -/
  | eqin
  /-- The direction of the objective. -/
  | minMax
  /-- The restrictions on the variables of a dual problem. -/
  | varConstr
  deriving Repr, DecidableEq

namespace MatrixName

/-- The canonical spelling of a name. -/
def text : MatrixName → String
  | .a => "A"
  | .b => "b"
  | .c => "c"
  | .eqin => "Eqin"
  | .minMax => "MinMax"
  | .varConstr => "VarConstr"

/-- The matrices that every problem has, in the order in which they are written. -/
def primal : List MatrixName :=
  [.a, .b, .c, .eqin, .minMax]

/-- The name with a given spelling, in any ASCII case. -/
def ofText? (spelling : String) : Option MatrixName :=
  match Text.lowercase spelling with
  | "a" => some .a
  | "b" => some .b
  | "c" => some .c
  | "eqin" => some .eqin
  | "minmax" => some .minMax
  | "varconstr" => some .varConstr
  | "var_constr" => some .varConstr
  | _ => none

theorem ofText?_text (name : MatrixName) : ofText? name.text = some name := by
  cases name <;> decide

end MatrixName

end LinearProgram
