import LinearProgram.Problem.Dual

namespace LinearProgram

/-!
# The sizes of the matrices of a problem

The matrices of a problem fit together when there is a row, a right-hand side
and a relation for each constraint, and a coefficient for each variable in
every row and in the objective. Passing to the dual exchanges the two numbers
(`HasSize.dual`).
-/

namespace Matrices

/-- The matrices describe constraints on variables, so and so many of each. -/
structure HasSize (matrices : Matrices) (constraintCount variableCount : Nat) :
    Prop where
  rowCount : matrices.a.length = constraintCount
  boundCount : matrices.b.length = constraintCount
  relationCount : matrices.eqin.length = constraintCount
  rowWidth : ∀ row ∈ matrices.a, row.length = variableCount
  coefficientCount : matrices.c.length = variableCount

/--
The dual has a constraint for each variable and a variable for each constraint.
-/
theorem HasSize.dual
    {primal : Matrices}
    {constraintCount variableCount : Nat}
    (size : primal.HasSize constraintCount variableCount) :
    primal.dual.HasSize variableCount constraintCount where
  rowCount := by
    simp [Matrices.dual, Matrices.variableCount, size.coefficientCount]
  boundCount := size.coefficientCount
  relationCount := by
    simp [Matrices.dual, Matrices.variableCount, size.coefficientCount]
  rowWidth row member := by
    rw [length_of_mem_transpose member, size.rowCount]
  coefficientCount := size.boundCount

end Matrices

end LinearProgram
