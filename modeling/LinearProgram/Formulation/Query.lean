import LinearProgram.Formulation.Basic

namespace LinearProgram

/-!
# Questions about a formulation
-/

/-- A question about a formulation, which leaves it as it is. -/
inductive Query where
  /-- What errors did the last check find? -/
  | report
  /-- What are the variables of one line? -/
  | lineVariables (line : Nat)
  /-- What are all variables? -/
  | allVariables
  | dimensions
  | matrix (name : String)
  | dualMatrix (name : String)
  | matrices
  | dualMatrices
  deriving Repr, DecidableEq

/-- What a question or a step of work answers. -/
inductive Answer where
  | done
  | diagnostics (diagnostics : List Formulation.Diagnostic)
  | text (text : String)
  | variableSet (set : VariableSet)
  | names (names : List String)
  | dimensions (dimensions : Formulation.Dimensions)
  | value (value : MatrixValue)
  | matrices (matrices : Matrices)
  deriving Repr, DecidableEq

/-- The answer to a question. -/
def Formulation.answer (formulation : Formulation) : Query → Except Failure Answer
  | .report => .ok (.text formulation.reportText)
  | .lineVariables line => (formulation.lineVariables line).map .variableSet
  | .allVariables => formulation.allVariables.map .names
  | .dimensions => formulation.dimensions.map .dimensions
  | .matrix name => (formulation.matrix name).map .value
  | .dualMatrix name => (formulation.dualMatrix name).map .value
  | .matrices => formulation.matrices.map .matrices
  | .dualMatrices => formulation.dualMatrices.map .matrices

end LinearProgram
