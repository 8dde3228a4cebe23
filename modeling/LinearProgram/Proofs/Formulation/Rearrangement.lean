import LinearProgram.Proofs.Formulation.Building
import LinearProgram.Proofs.Problem.Rearrangement

namespace LinearProgram.Formulation

/-!
# Lines of a problem in another order

The constraints of a problem are read one by one, and what is read of each depends
on its line and on the number of variables alone (`MadeOf.constraint?_eq`). So
constraints in another order make the same problem up to this order
(`matrices_of_rearranged`), although of several lines that cannot be read the first
one is reported.
-/

section Dimensions

variable {lines others : List String} {dimensions : Dimensions}

/-- No line counts more than another for the dimensions of a problem. -/
theorem dimensionsOf_of_perm
    (moved : lines.Perm others)
    (success : dimensionsOf lines = .ok dimensions) :
    dimensionsOf others = .ok dimensions := by
  have widths := exists_dimensionsOf_iff.mp ⟨dimensions, success⟩
  simp only [moved.mem_iff] at widths
  obtain ⟨otherDimensions, otherSuccess⟩ := exists_dimensionsOf_iff.mpr widths
  by_cases empty : others = []
  · subst empty
    rwa [moved.eq_nil] at success
  · have filled : lines ≠ [] := by
      rintro rfl
      exact empty moved.symm.eq_nil
    have counts : otherDimensions.constraintCount = dimensions.constraintCount := by
      rw [constraintCount_of_dimensionsOf otherSuccess,
        constraintCount_of_dimensionsOf success, moved.length_eq]
    have greatest := (isGreatest_of_dimensionsOf success filled).1
    simp only [moved.mem_iff] at greatest
    have width := (isGreatest_of_dimensionsOf otherSuccess empty).1.unique greatest
    obtain ⟨constraintCount, variableCount⟩ := otherDimensions
    cases counts
    cases width
    exact otherSuccess

/-- The dimensions do not depend on the order of the lines. -/
theorem dimensionsOf_perm_iff (moved : lines.Perm others) :
    dimensionsOf lines = .ok dimensions ↔ dimensionsOf others = .ok dimensions :=
  ⟨dimensionsOf_of_perm moved, dimensionsOf_of_perm moved.symm⟩

end Dimensions

/-- What is read of a constraint, given the number of variables. -/
def constraintOf? (width : Nat) (line : String) : Option (List Int × Int × Relation) := do
  let row ← (coefficients width (tokenize line)).toOption
  let token ← rightHandSide? (tokenize line)
  let bound ← (Term.integerValue token.text).toOption
  let relation ← relation? (tokenize line)
  return (row, bound, relation)

namespace MadeOf

variable {matrices : Matrices} {objective : String} {constraints : List String} {width : Nat}

/-- A constraint is read from its line, whatever the other lines. -/
theorem constraint?_eq
    (made : MadeOf matrices objective constraints width)
    (position : Nat) :
    matrices.constraint? position = constraints[position]?.bind (constraintOf? width) := by
  have row := rel_getElem? made.rows position
  have bound := rel_getElem? made.bounds position
  have relation := rel_getElem? made.relations position
  rw [Matrices.constraint?]
  generalize constraints[position]? = line at row bound relation
  generalize matrices.a[position]? = foundRow at row
  generalize matrices.b[position]? = foundBound at bound
  generalize matrices.eqin[position]? = foundRelation at relation
  cases row with
  | none =>
      rfl
  | some isRow =>
      cases bound with
      | some isBound =>
          cases relation with
          | some isRelation =>
              obtain ⟨token, isToken, isValue⟩ := isBound
              simp [constraintOf?, isRow, isToken, isValue, isRelation, Except.toOption]

/-- Constraints in another order make the problem in this order. -/
theorem rearrange
    (made : MadeOf matrices objective constraints width)
    (order : List Nat) :
    MadeOf (matrices.rearrangeConstraints order) objective
      (LinearProgram.rearrange order constraints) width where
  rows := forall₂_rearrange order made.rows
  bounds := forall₂_rearrange order made.bounds
  objectiveRow := made.objectiveRow
  relations := forall₂_rearrange order made.relations
  direction := made.direction
  primal := made.primal

end MadeOf

/-- Whether there are matrices does not depend on the order of the constraints. -/
theorem exists_madeOf_of_perm
    {objective : String}
    {constraints others : List String}
    {width : Nat}
    (moved : others.Perm constraints)
    (made : ∃ matrices, MadeOf matrices objective others width) :
    ∃ matrices, MadeOf matrices objective constraints width := by
  simpa only [exists_madeOf_iff, List.forall_mem_cons, moved.mem_iff] using made

/-- The matrices of a problem in another order are those of the problem in this order. -/
theorem assemble_rearrange_iff
    {objective : String}
    {constraints : List String}
    {order : List Nat}
    {dimensions : Dimensions}
    (isOrder : order.Perm (List.range constraints.length))
    (all : dimensions.constraintCount = constraints.length)
    {result : Matrices} :
    assemble (objective :: rearrange order constraints) dimensions = .ok result ↔
      ∃ matrices, assemble (objective :: constraints) dimensions = .ok matrices ∧
        result = matrices.rearrangeConstraints order := by
  have moved := rearrange_perm isOrder
  have allMoved : dimensions.constraintCount = (rearrange order constraints).length := by
    rw [all, moved.length_eq]
  constructor
  · intro success
    obtain ⟨matrices, made⟩ :=
      exists_madeOf_of_perm moved ⟨result, (assemble_eq_ok_iff allMoved).mp success⟩
    refine ⟨matrices, (assemble_eq_ok_iff all).mpr made, ?_⟩
    -- Nothing else than the problem in this order can have been assembled.
    rw [(assemble_eq_ok_iff allMoved).mpr (made.rearrange order)] at success
    cases success
    rfl
  · rintro ⟨matrices, success, rfl⟩
    have made := (assemble_eq_ok_iff all).mp success
    exact (assemble_eq_ok_iff allMoved).mpr (made.rearrange order)

/--
Constraints in another order have the same dimensions, and for these the matrices of
either order can be made exactly if those of the other can. The constraints of the
problem and the variables of its dual are then in the given order. Problems with as
many variables read a line that they have in common alike.
-/
theorem matrices_of_rearranged
    (objective : String)
    {constraints : List String}
    {order : List Nat}
    (isOrder : order.Perm (List.range constraints.length)) :
    (∀ dimensions,
      dimensionsOf (objective :: rearrange order constraints) = .ok dimensions ↔
        dimensionsOf (objective :: constraints) = .ok dimensions) ∧
    ∀ dimensions, dimensionsOf (objective :: constraints) = .ok dimensions →
      (∀ result,
        assemble (objective :: rearrange order constraints) dimensions = .ok result ↔
          ∃ matrices, assemble (objective :: constraints) dimensions = .ok matrices ∧
            result = matrices.rearrangeConstraints order) ∧
      ∀ matrices, assemble (objective :: constraints) dimensions = .ok matrices →
        matrices.HasSize constraints.length dimensions.variableCount ∧
        (matrices.rearrangeConstraints order).dual = matrices.dual.rearrangeVariables order ∧
        ∀ otherObjective others otherDimensions otherMatrices,
          dimensionsOf (otherObjective :: others) = .ok otherDimensions →
          assemble (otherObjective :: others) otherDimensions = .ok otherMatrices →
          otherDimensions.variableCount = dimensions.variableCount →
          ∀ position otherPosition, others[otherPosition]? = constraints[position]? →
            otherMatrices.constraint? otherPosition = matrices.constraint? position := by
  have moved : (objective :: rearrange order constraints).Perm (objective :: constraints) :=
    (rearrange_perm isOrder).cons objective
  refine ⟨fun dimensions => dimensionsOf_perm_iff moved, fun dimensions measured => ?_⟩
  have all := constraintCount_of_dimensionsOf measured
  refine ⟨fun result => assemble_rearrange_iff isOrder all, fun matrices assembled => ?_⟩
  have made := (assemble_eq_ok_iff all).mp assembled
  refine ⟨made.hasSize, matrices.dual_rearrangeConstraints order, ?_⟩
  intro otherObjective others otherDimensions otherMatrices otherMeasured otherAssembled
    sameWidth position otherPosition sameLine
  have otherMade :=
    (assemble_eq_ok_iff (constraintCount_of_dimensionsOf otherMeasured)).mp otherAssembled
  rw [made.constraint?_eq, otherMade.constraint?_eq, sameWidth, sameLine]

/-- Three constraints in a cycle, the last of which another problem has too. -/
theorem matrices_of_rearranged_cycle :
    let objective := "Max3x1+2x2"
    let constraints := ["s.t.x1<=4", "x2>=1", "x1+x3=5"]
    let order := [2, 0, 1]
    let matrices : Matrices :=
      ⟨[[1, 0, 0], [0, 1, 0], [1, 0, 1]], [4, 1, 5], [3, 2, 0], [.le, .ge, .eq], .max, none⟩
    let other : Matrices := ⟨[[1, 0, 1]], [5], [0, 0, 1], [.eq], .min, none⟩
    dimensionsOf (objective :: rearrange order constraints) = .ok ⟨3, 3⟩ ∧
      assemble (objective :: rearrange order constraints) ⟨3, 3⟩ =
        .ok (matrices.rearrangeConstraints order) ∧
      (matrices.rearrangeConstraints order).dual =
        ⟨[[1, 1, 0], [0, 0, 1], [1, 0, 0]], [3, 2, 0], [5, 4, 1], [.ge, .ge, .ge], .min,
          some [.free, .nonNegative, .nonPositive]⟩ ∧
      other.constraint? 0 = matrices.constraint? 2 := by
  intro objective constraints order matrices other
  have isOrder : order.Perm (List.range constraints.length) := by
    decide
  have measured : dimensionsOf (objective :: constraints) = .ok ⟨3, 3⟩ := by
    unfold objective constraints
    rfl
  have assembled : assemble (objective :: constraints) ⟨3, 3⟩ = .ok matrices := by
    unfold objective constraints matrices
    rfl
  obtain ⟨sameDimensions, made⟩ := matrices_of_rearranged objective isOrder
  obtain ⟨sameMatrices, parts⟩ := made _ measured
  obtain ⟨_, dual, independent⟩ := parts _ assembled
  refine ⟨(sameDimensions _).mpr measured, (sameMatrices _).mpr ⟨_, assembled, rfl⟩, ?_, ?_⟩
  · rw [dual]
    decide
  · exact independent "Minx3" ["x1+x3=5"] ⟨1, 3⟩ other rfl rfl rfl 2 0 rfl

/-- Which failure is reported does depend on the order. -/
example :
    assemble ["Maxx1", "x1<=9999999999999999999", "x1"] ⟨2, 1⟩ =
        .error (.invalidNumber "9999999999999999999") ∧
      assemble ["Maxx1", "x1", "x1<=9999999999999999999"] ⟨2, 1⟩ =
        .error (.malformedLine 1 .noRightHandSide) :=
  ⟨rfl, rfl⟩

end LinearProgram.Formulation
