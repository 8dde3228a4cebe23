import LinearProgram.Line.Parts
import LinearProgram.Line.Terms
import LinearProgram.Problem.Matrices

namespace LinearProgram.Formulation

/-!
# Assembling the matrices of a problem

The first line is the objective and all other lines are constraints. The last
variable of each line tells how wide the line is, and the widest line tells how
many variables the problem has.
-/

/-- The number of constraints and the number of variables of a problem. -/
structure Dimensions where
  constraintCount : Nat
  variableCount : Nat
  deriving Repr, DecidableEq

/--
The widest among a given set and the variables of some lines; of equally wide
ones the first.
-/
def widestFrom (widest : VariableSet) : List String → Except Failure VariableSet
  | [] => .ok widest
  | line :: rest => do
      let set ← VariableSet.ofTokens (tokenize line)
      widestFrom (if widest.width < set.width then set else widest) rest

/-- The variables of the first widest line. -/
def widestVariables (lines : List String) : Except Failure VariableSet :=
  widestFrom .empty lines

/-- The width of a line, which has to speak of some variable. -/
def lineWidth (line : Nat) (text : String) : Except Failure Nat := do
  let set ← VariableSet.ofTokens (tokenize text)
  if set.width = 0 then
    throw (.malformedLine line .noVariables)
  else
    return set.width

/-- The width of each line. -/
def lineWidths (lines : List String) : Except Failure (List Nat) :=
  lines.zipIdx.mapM fun numbered => lineWidth numbered.2 numbered.1

/-- The dimensions of a problem. -/
def dimensionsOf (lines : List String) : Except Failure Dimensions := do
  let widths ← lineWidths lines
  return ⟨lines.length - 1, widths.foldl max 0⟩

/-- The tokens of the objective. -/
def objectiveTokens (lines : List String) : Except Failure (List Token) :=
  match lines.head? with
  | some line => .ok (tokenize line)
  | none => .error .emptyProblem

/-- The tokens of the constraints. -/
def constraintTokens (lines : List String) : List (List Token) :=
  lines.tail.map tokenize

/-- A row for each constraint, and rows of zeros where constraints are lacking. -/
def coefficientRows (dimensions : Dimensions) (constraints : List (List Token)) :
    Except Failure (List (List Int)) := do
  let rows ← (constraints.take dimensions.constraintCount).mapM
    (coefficients dimensions.variableCount)
  return rows ++ List.replicate (dimensions.constraintCount - rows.length)
    (List.replicate dimensions.variableCount 0)

/-- The right-hand side of the constraint on a line. -/
def rightHandSide (line : Nat) (tokens : List Token) : Except Failure Int :=
  match rightHandSide? tokens with
  | some token => Term.integerValue token.text
  | none => .error (.malformedLine line .noRightHandSide)

/-- The relation of the constraint on a line. -/
def relation (line : Nat) (tokens : List Token) : Except Failure Relation :=
  match relation? tokens with
  | some relation => .ok relation
  | none => .error (.malformedLine line .noRelation)

/-- What is found in each constraint, given the number of its line. -/
def forEachConstraint
    (find : Nat → List Token → Except Failure α)
    (constraints : List (List Token)) : Except Failure (List α) :=
  (constraints.zipIdx 1).mapM fun numbered => find numbered.2 numbered.1

/-- The right-hand side of each constraint. -/
def rightHandSides : List (List Token) → Except Failure (List Int) :=
  forEachConstraint rightHandSide

/-- The relation of each constraint. -/
def relations : List (List Token) → Except Failure (List Relation) :=
  forEachConstraint relation

/-- The direction of the objective. -/
def direction (objective : List Token) : Except Failure Direction :=
  match direction? objective with
  | some direction => .ok direction
  | none => .error (.malformedLine 0 .noDirection)

/-- The matrices of a problem that is given dimensions. -/
def assemble (lines : List String) (dimensions : Dimensions) : Except Failure Matrices := do
  let constraints := constraintTokens lines
  let objective ← objectiveTokens lines
  let a ← coefficientRows dimensions constraints
  let b ← rightHandSides constraints
  let c ← coefficients dimensions.variableCount objective
  let eqin ← relations constraints
  let direction ← direction objective
  return ⟨a, b, c, eqin, direction, none⟩

/-- One matrix of a problem that is given dimensions. -/
def assembleOne (lines : List String) (dimensions : Dimensions) :
    MatrixName → Except Failure MatrixValue
  | .a => do
      let rows ← coefficientRows dimensions (constraintTokens lines)
      return .matrix rows
  | .b => do
      let entries ← rightHandSides (constraintTokens lines)
      return .vector entries
  | .c => do
      let objective ← objectiveTokens lines
      let entries ← coefficients dimensions.variableCount objective
      return .vector entries
  | .eqin => do
      let relations ← relations (constraintTokens lines)
      return .vector (relations.map Relation.code)
  | .minMax => do
      let objective ← objectiveTokens lines
      let direction ← direction objective
      return .vector [direction.code]
  | .varConstr => throw (.argument .restrictionsOfPrimal)

end LinearProgram.Formulation
