import LinearProgram.Problem.Matrices

namespace LinearProgram

/-!
# The dual of a problem

The variables of the given problem are taken to be nonnegative, so all
constraints of the dual share one relation, which the direction fixes. Each
variable of the dual belongs to a constraint of the given problem, whose
relation fixes the restriction on the variable.
-/

/-- The relation that the constraints of the dual share. -/
def Direction.dualRelation : Direction → Relation
  | .min => .le
  | .max => .ge

/-- The restriction on the dual variable of a constraint. -/
def Restriction.ofConstraint (direction : Direction) (relation : Relation) : Restriction :=
  match direction, relation with
  | _, .eq => .free
  | .max, .le => .nonNegative
  | .max, .ge => .nonPositive
  | .min, .ge => .nonNegative
  | .min, .le => .nonPositive

/-- The given number of columns of some rows, with zeros where a row is too short. -/
def transpose (rows : List (List Int)) (columns : Nat) : List (List Int) :=
  (List.range columns).map fun column => rows.map fun row => row.getD column 0

/-- A transpose has the given number of rows. -/
@[simp] theorem length_transpose (rows : List (List Int)) (columns : Nat) :
    (transpose rows columns).length = columns := by
  simp [transpose]

/-- Each row of a transpose has an entry for every row transposed. -/
theorem length_of_mem_transpose
    {rows : List (List Int)}
    {columns : Nat}
    {row : List Int}
    (member : row ∈ transpose rows columns) :
    row.length = rows.length := by
  obtain ⟨column, _, rfl⟩ := List.mem_map.mp member
  simp

/-- The dual of a problem, whatever the restrictions on its variables. -/
def Matrices.dual (primal : Matrices) : Matrices where
  a := transpose primal.a primal.variableCount
  b := primal.c
  c := primal.b
  eqin := List.replicate primal.variableCount primal.direction.dualRelation
  direction := primal.direction.opposite
  varConstr := some (primal.eqin.map (Restriction.ofConstraint primal.direction))

end LinearProgram
