import LinearProgram.Line.Token
import LinearProgram.Problem.Matrices
import LinearProgram.Text.Numeral

namespace LinearProgram.Grammar

/-!
# Problems apart from their spelling

A problem consists of an objective and of constraints, whose terms are variables
with signs and magnitudes. Its width is taken from the last term of each line,
and its rows from all terms, where the last term with an index counts.
-/

/-- A variable with a sign and a magnitude, which is one if it is left out. -/
structure Monomial where
  sign : Sign
  magnitude : Option Nat
  /-- The index of the variable, counted from one. -/
  index : Nat
  magnitudeFits : ∀ value, magnitude = some value → (value : Int) ≤ Numeral.maxValue
  indexPositive : 1 ≤ index
  indexFits : index ≤ Numeral.maxIndex

/-- The coefficient of a variable. -/
def Monomial.coefficient (term : Monomial) : Int :=
  match term.sign with
  | .plus => term.magnitude.getD 1
  | .minus => -term.magnitude.getD 1

/-- The terms of a line. -/
structure Expression where
  terms : List Monomial
  nonempty : terms ≠ []

namespace Expression

/-- The index of the last variable. -/
def lastIndex (expression : Expression) : Nat :=
  (expression.terms.getLast expression.nonempty).index

/-- The coefficient of the last term for a variable, or zero if there is none. -/
def coefficientAt (expression : Expression) (index : Nat) : Int :=
  match expression.terms.reverse.find? fun term => term.index == index with
  | some term => term.coefficient
  | none => 0

/-- The coefficients of the variables up to a given index. -/
def row (expression : Expression) (width : Nat) : List Int :=
  (List.range width).map fun position => expression.coefficientAt (position + 1)

end Expression

/-- A constraint with a bound on the right-hand side. -/
structure Constraint where
  expression : Expression
  relation : Relation
  bound : Nat
  boundFits : (bound : Int) ≤ Numeral.maxValue

/-- The greatest index of a last variable. -/
def widthOf (expressions : List Expression) : Nat :=
  (expressions.map Expression.lastIndex).foldl max 0

/-- A problem whose variables are all covered by the last variable of some line. -/
structure Problem where
  direction : Direction
  objective : Expression
  first : Constraint
  others : List Constraint
  covered :
    ∀ expression ∈ objective :: (first :: others).map Constraint.expression,
      ∀ term ∈ expression.terms,
        term.index ≤
          widthOf (objective :: (first :: others).map Constraint.expression)

namespace Problem

/-- The constraints, of which there is at least one. -/
def constraints (problem : Problem) : List Constraint :=
  problem.first :: problem.others

/-- The terms of each line. -/
def expressions (problem : Problem) : List Expression :=
  problem.objective :: problem.constraints.map Constraint.expression

/-- The number of variables. -/
def width (problem : Problem) : Nat :=
  widthOf problem.expressions

/-- The matrices of a problem. -/
def matrices (problem : Problem) : Matrices where
  a := problem.constraints.map fun constraint =>
    constraint.expression.row problem.width
  b := problem.constraints.map fun constraint => constraint.bound
  c := problem.objective.row problem.width
  eqin := problem.constraints.map Constraint.relation
  direction := problem.direction
  varConstr := none

end Problem

end LinearProgram.Grammar
