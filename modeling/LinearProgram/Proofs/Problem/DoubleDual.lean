import LinearProgram.Proofs.Problem.Shape
import LinearProgram.Proofs.Problem.Vectors

namespace LinearProgram

/-!
# The dual of the dual

A dual has constraints of a single relation, so taking the dual twice forgets
the relations of a problem and keeps all else. A problem is canonical when all
its constraints have the relation that its direction would give to a dual. Only
canonical problems come back from their second dual, and their duals are those
with nonnegative variables only (`dual_dual`).
-/

/-- The relation of the constraints of a canonical problem. -/
def Direction.canonicalRelation : Direction → Relation
  | .max => .le
  | .min => .ge

/-- The constraints of a dual have the canonical relation of its direction. -/
theorem Direction.canonicalRelation_opposite (direction : Direction) :
    direction.opposite.canonicalRelation = direction.dualRelation := by
  cases direction <;> rfl

/-- Each direction has a single relation that makes a dual variable nonnegative. -/
theorem Restriction.ofConstraint_eq_nonNegative_iff
    {direction : Direction}
    {relation : Relation} :
    ofConstraint direction relation = .nonNegative ↔
      relation = direction.canonicalRelation := by
  cases direction <;> cases relation <;> decide

/-- The entries at one position of the columns make up the row at that position. -/
theorem map_getD_transpose
    (rows : List (List Int))
    (columns : Nat)
    {position : Nat}
    (within : position < rows.length) :
    (transpose rows columns).map (fun column => column.getD position 0) =
      (List.range columns).map fun column => rows[position].getD column 0 := by
  simp [transpose, within]

/-- Transposing twice gives the rows back, even if there are none or they are empty. -/
theorem transpose_transpose
    {rows : List (List Int)}
    {columns : Nat}
    (rowWidth : ∀ row ∈ rows, row.length = columns) :
    transpose (transpose rows columns) rows.length = rows := by
  apply List.ext_getElem (length_transpose _ _)
  intro position _ within
  have width := rowWidth rows[position] (List.getElem_mem within)
  have entries := map_getD_transpose rows columns within
  rw [← width, map_getD_range_length, width] at entries
  simpa [transpose] using entries

namespace Matrices

/-- All constraints have the relation that goes with the direction. -/
def Canonical (matrices : Matrices) : Prop :=
  ∀ relation ∈ matrices.eqin, relation = matrices.direction.canonicalRelation

variable {primal : Matrices} {constraintCount variableCount : Nat}

/-- The relations of a canonical problem are as many copies of a single one. -/
theorem canonical_iff_eq_replicate
    (size : primal.HasSize constraintCount variableCount) :
    primal.Canonical ↔
      primal.eqin = List.replicate constraintCount primal.direction.canonicalRelation := by
  rw [List.eq_replicate_iff]
  exact (and_iff_right size.relationCount).symm

/-- The second dual has the data of the problem, with canonical relations. -/
theorem dual_dual_eq
    (size : primal.HasSize constraintCount variableCount) :
    primal.dual.dual =
      { primal with
        eqin := List.replicate constraintCount primal.direction.canonicalRelation
        varConstr := some (List.replicate variableCount .nonNegative) } := by
  have coefficients :
      transpose (transpose primal.a variableCount) constraintCount = primal.a := by
    rw [← size.rowCount]
    exact transpose_transpose size.rowWidth
  have restriction :
      Restriction.ofConstraint primal.direction.opposite primal.direction.dualRelation =
        .nonNegative := by
    rw [Restriction.ofConstraint_eq_nonNegative_iff, Direction.canonicalRelation_opposite]
  have relation :
      primal.direction.opposite.dualRelation = primal.direction.canonicalRelation := by
    rw [← Direction.canonicalRelation_opposite, Direction.opposite_opposite]
  simp only [dual, Matrices.variableCount, size.boundCount, size.coefficientCount,
    coefficients, relation, List.map_replicate, restriction, Direction.opposite_opposite]

/-- The dual of a canonical problem has no variable that may be negative. -/
theorem canonical_iff_restrictions (primal : Matrices) :
    primal.Canonical ↔
      ∃ restrictions, primal.dual.varConstr = some restrictions ∧
        ∀ restriction ∈ restrictions, restriction = .nonNegative := by
  have restricted :
      (∀ restriction ∈ primal.eqin.map (Restriction.ofConstraint primal.direction),
          restriction = .nonNegative) ↔
        primal.Canonical := by
    simp only [List.forall_mem_map, Restriction.ofConstraint_eq_nonNegative_iff]
    rfl
  rw [← restricted]
  simp [dual]

/--
Dualizing twice gives back the problem but for its relations, which become those
of a canonical problem. So a problem is its own second dual, restrictions apart,
exactly if it is canonical, which can be told from the restrictions of its dual.
-/
theorem dual_dual
    (size : primal.HasSize constraintCount variableCount) :
    primal.dual.dual =
      { primal with
        eqin := List.replicate constraintCount primal.direction.canonicalRelation
        varConstr := some (List.replicate variableCount .nonNegative) } ∧
    ({ primal.dual.dual with varConstr := primal.varConstr } = primal ↔
      primal.Canonical) ∧
    (primal.Canonical ↔
      ∃ restrictions, primal.dual.varConstr = some restrictions ∧
        ∀ restriction ∈ restrictions, restriction = .nonNegative) := by
  refine ⟨dual_dual_eq size, ?_, canonical_iff_restrictions primal⟩
  rw [dual_dual_eq size, canonical_iff_eq_replicate size]
  constructor
  · intro same
    exact (congrArg Matrices.eqin same).symm
  · intro relations
    rw [← relations]

/--
A problem without variables is canonical and comes back; one with an equation
comes back with an inequality.
-/
theorem dual_dual_degenerate :
    let empty : Matrices := ⟨[[], []], [5, -6], [], [.ge, .ge], .min, none⟩
    let mixed : Matrices :=
      ⟨[[1, 0, 3], [-2, 4, 0]], [5, 6], [1, 1, 1], [.eq, .le], .max, some [.free]⟩
    (empty.HasSize 2 0 ∧ empty.dual.dual = { empty with varConstr := some [] } ∧
      empty.Canonical) ∧
    mixed.HasSize 2 3 ∧
      mixed.dual.dual =
        { mixed with
          eqin := [.le, .le]
          varConstr := some [.nonNegative, .nonNegative, .nonNegative] } ∧
      ¬ mixed.Canonical := by
  intro empty mixed
  have emptySize : empty.HasSize 2 0 := ⟨rfl, rfl, rfl, by decide, rfl⟩
  have mixedSize : mixed.HasSize 2 3 := ⟨rfl, rfl, rfl, by decide, rfl⟩
  have differs : { mixed.dual.dual with varConstr := mixed.varConstr } ≠ mixed := by
    decide
  exact ⟨⟨emptySize, (dual_dual emptySize).1, (dual_dual emptySize).2.1.mp rfl⟩,
    mixedSize, (dual_dual mixedSize).1, fun canonical =>
      differs ((dual_dual mixedSize).2.1.mpr canonical)⟩

end Matrices

end LinearProgram
