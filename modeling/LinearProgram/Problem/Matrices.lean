import LinearProgram.Problem.Codes
import LinearProgram.Problem.MatrixName

namespace LinearProgram

/-!
# The matrices of a problem

A problem is given by the coefficients, right-hand sides and relations of its
constraints and by the coefficients and the direction of its objective. Its
variables are taken to be nonnegative, unless the problem arose as a dual: then
each variable has a restriction of its own.
-/

/-- The matrices of a problem or of its dual. -/
structure Matrices where
  /-- The coefficients, one row for each constraint. -/
  a : List (List Int)
  /-- The right-hand side of each constraint. -/
  b : List Int
  /-- The coefficients of the objective. -/
  c : List Int
  /-- The relation of each constraint. -/
  eqin : List Relation
  direction : Direction
  /-- The restriction on each variable of a dual problem. -/
  varConstr : Option (List Restriction)
  deriving Repr, DecidableEq

/-- One matrix, with codes in place of relations, directions and restrictions. -/
inductive MatrixValue where
  | matrix (rows : List (List Int))
  | vector (entries : List Int)
  deriving Repr, DecidableEq

namespace Matrices

/-- The number of variables. -/
def variableCount (matrices : Matrices) : Nat :=
  matrices.c.length

/-- Whether the variables have restrictions of their own. -/
def isDual (matrices : Matrices) : Bool :=
  matrices.varConstr.isSome

/-- The codes of the relations. -/
def eqinCodes (matrices : Matrices) : List Int :=
  matrices.eqin.map Relation.code

/-- The code of the direction, as a vector of one entry. -/
def minMax (matrices : Matrices) : List Int :=
  [matrices.direction.code]

/-- The codes of the restrictions. -/
def varConstrCodes (matrices : Matrices) : Option (List Int) :=
  matrices.varConstr.map fun restrictions => restrictions.map Restriction.code

/-- The matrix with a given name, which only the restrictions of a primal problem lack. -/
def get? (matrices : Matrices) : MatrixName → Option MatrixValue
  | .a => some (.matrix matrices.a)
  | .b => some (.vector matrices.b)
  | .c => some (.vector matrices.c)
  | .eqin => some (.vector matrices.eqinCodes)
  | .minMax => some (.vector matrices.minMax)
  | .varConstr => matrices.varConstrCodes.map .vector

/-- The names of the matrices that a problem has, in the order in which they are written. -/
def names (matrices : Matrices) : List MatrixName :=
  if matrices.isDual then MatrixName.primal ++ [.varConstr] else MatrixName.primal

/-- Every matrix of a problem with its name. -/
def named (matrices : Matrices) : List (MatrixName × MatrixValue) :=
  matrices.names.filterMap fun name => (matrices.get? name).map fun value => (name, value)

end Matrices

end LinearProgram
