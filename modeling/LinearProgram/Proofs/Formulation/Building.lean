import LinearProgram.Proofs.Formulation.CleanCheck
import LinearProgram.Proofs.Formulation.Dimensions
import LinearProgram.Proofs.Problem.Shape

namespace LinearProgram.Formulation

/-!
# Building the matrices of clean lines

What a check looks for is what is needed to build the matrices, except that the
check does not look at numbers. So the matrices of clean lines can be built
exactly if there are variables and the numbers are of the right size
(`exists_matrices_iff`).
-/

/-- Lines in which there are variables and all numbers are of the right size. -/
structure Buildable (lines : List String) (width : Nat) : Prop where
  someVariable : ∀ line ∈ lines, ∃ token ∈ tokenize line, token.kind = .variable
  /-- The width is the greatest index that the last variable of a line has. -/
  widest : IsGreatest {index | ∃ line ∈ lines, HasWidth line index} width
  enterable : ∀ line ∈ lines, Enterable width line
  /-- The right-hand side of every constraint is small enough. -/
  bounds : ∀ line ∈ lines.tail, ∀ token ∈ rightHandSide? (tokenize line),
    (token.number : Int) ≤ Numeral.maxValue

/-- How matrices are made of an objective and constraints, line by line. -/
structure MadeOf
    (matrices : Matrices)
    (objective : String)
    (constraints : List String)
    (width : Nat) : Prop where
  rows : List.Forall₂ (fun line row => coefficients width (tokenize line) = .ok row)
    constraints matrices.a
  bounds : List.Forall₂
    (fun line bound => ∃ token, rightHandSide? (tokenize line) = some token ∧
      Term.integerValue token.text = .ok bound)
    constraints matrices.b
  objectiveRow : coefficients width (tokenize objective) = .ok matrices.c
  relations : List.Forall₂ (fun line relation => relation? (tokenize line) = some relation)
    constraints matrices.eqin
  direction : direction? (tokenize objective) = some matrices.direction
  primal : matrices.varConstr = none

theorem mem_of_rightHandSide?
    {tokens : List Token}
    {token : Token}
    (found : rightHandSide? tokens = some token) :
    token ∈ tokens ∧ token.kind = .integer := by
  fun_induction rightHandSide? tokens with
  | case1 first second rest isBound =>
      cases found
      rw [Bool.and_eq_true, beq_iff_eq] at isBound
      exact ⟨List.mem_cons_of_mem _ List.mem_cons_self, isBound.2⟩
  | case2 first second rest noBound inductionHypothesis =>
      obtain ⟨member, integer⟩ := inductionHypothesis found
      exact ⟨List.mem_cons_of_mem _ member, integer⟩
  | case3 =>
      cases found

/-- A right-hand side is read as the number that it writes, unless that is too large. -/
theorem rightHandSide_value_iff
    {line : String}
    {token : Token}
    (found : rightHandSide? (tokenize line) = some token)
    {bound : Int} :
    Term.integerValue token.text = .ok bound ↔
      (token.number : Int) = bound ∧ bound ≤ Numeral.maxValue := by
  obtain ⟨member, integer⟩ := mem_of_rightHandSide? found
  exact integerValue_eq_ok_iff member integer

/-! The parts of the matrices. -/

/-- The rows of all constraints are filled line by line. -/
theorem coefficientRows_eq_mapM
    {dimensions : Dimensions}
    {constraints : List (List Token)}
    (all : dimensions.constraintCount = constraints.length) :
    coefficientRows dimensions constraints =
      constraints.mapM (coefficients dimensions.variableCount) := by
  rw [coefficientRows, all, List.take_length]
  cases outcome : constraints.mapM (coefficients dimensions.variableCount) with
  | error failure =>
      rfl
  | ok rows =>
      have length : constraints.length = rows.length :=
        (mapM_eq_ok_iff.mp outcome).length_eq
      change Except.ok (rows ++ List.replicate (constraints.length - rows.length) _) = _
      rw [length, Nat.sub_self, List.replicate_zero, List.append_nil]

/-- A right-hand side is the number of the integer that is found. -/
theorem rightHandSide_eq_ok_iff
    (number : Nat)
    (tokens : List Token)
    (bound : Int) :
    rightHandSide number tokens = .ok bound ↔
      ∃ token, rightHandSide? tokens = some token ∧
        Term.integerValue token.text = .ok bound := by
  rw [rightHandSide]
  cases rightHandSide? tokens <;> simp

theorem relation_eq_ok_iff
    (number : Nat)
    (tokens : List Token)
    (found : Relation) :
    relation number tokens = .ok found ↔ relation? tokens = some found := by
  rw [relation]
  cases relation? tokens <;> simp

theorem direction_eq_ok_iff
    {tokens : List Token}
    {found : Direction} :
    direction tokens = .ok found ↔ direction? tokens = some found := by
  rw [direction]
  cases direction? tokens <;> simp

section Assembly

variable {objective : String} {constraints : List String} {dimensions : Dimensions}

/-- The rows are those of the lines, in order. -/
theorem coefficientRows_eq_ok_iff
    (all : dimensions.constraintCount = constraints.length)
    {rows : List (List Int)} :
    coefficientRows dimensions (constraints.map tokenize) = .ok rows ↔
      List.Forall₂
        (fun line row => coefficients dimensions.variableCount (tokenize line) = .ok row)
        constraints rows := by
  rw [coefficientRows_eq_mapM (by rw [all, List.length_map]), mapM_eq_ok_iff,
    List.forall₂_map_left_iff]

theorem rightHandSides_eq_ok_iff {bounds : List Int} :
    rightHandSides (constraints.map tokenize) = .ok bounds ↔
      List.Forall₂
        (fun line bound => ∃ token, rightHandSide? (tokenize line) = some token ∧
          Term.integerValue token.text = .ok bound)
        constraints bounds := by
  rw [rightHandSides, forEachConstraint, mapM_zipIdx_eq_ok_iff rightHandSide_eq_ok_iff,
    List.forall₂_map_left_iff]

theorem relations_eq_ok_iff {found : List Relation} :
    relations (constraints.map tokenize) = .ok found ↔
      List.Forall₂ (fun line relation => relation? (tokenize line) = some relation)
        constraints found := by
  rw [relations, forEachConstraint, mapM_zipIdx_eq_ok_iff relation_eq_ok_iff,
    List.forall₂_map_left_iff]

/-- The matrices are made of all lines if the dimensions count them all. -/
theorem assemble_eq_ok_iff
    (all : dimensions.constraintCount = constraints.length)
    {matrices : Matrices} :
    assemble (objective :: constraints) dimensions = .ok matrices ↔
      MadeOf matrices objective constraints dimensions.variableCount := by
  simp only [assemble, bind_eq_ok_iff]
  constructor
  · rintro ⟨_, isObjective, rows, rowsFound, bounds, boundsFound, objectiveRow, rowFound,
      relations, relationsFound, direction, directionFound, made⟩
    cases isObjective
    cases made
    exact ⟨(coefficientRows_eq_ok_iff all).mp rowsFound,
      rightHandSides_eq_ok_iff.mp boundsFound, rowFound,
      relations_eq_ok_iff.mp relationsFound, direction_eq_ok_iff.mp directionFound, rfl⟩
  · rintro ⟨rows, bounds, objectiveRow, relations, direction, primal⟩
    refine ⟨_, rfl, _, (coefficientRows_eq_ok_iff all).mpr rows,
      _, rightHandSides_eq_ok_iff.mpr bounds, _, objectiveRow,
      _, relations_eq_ok_iff.mpr relations, _, direction_eq_ok_iff.mpr direction, ?_⟩
    rw [← primal]
    rfl

/-- The parts of the matrices can be made one by one. -/
theorem exists_madeOf_iff {width : Nat} :
    (∃ matrices, MadeOf matrices objective constraints width) ↔
      (∀ line ∈ objective :: constraints, Enterable width line) ∧
        (∀ line ∈ constraints, ∃ bound token, rightHandSide? (tokenize line) = some token ∧
          Term.integerValue token.text = .ok bound) ∧
        (∀ line ∈ constraints, ∃ relation, relation? (tokenize line) = some relation) ∧
        ∃ direction, direction? (tokenize objective) = some direction := by
  simp only [List.forall_mem_cons, ← exists_coefficients_iff, ← exists_forall₂_iff]
  constructor
  · rintro ⟨matrices, made⟩
    exact ⟨⟨⟨_, made.objectiveRow⟩, _, made.rows⟩, ⟨_, made.bounds⟩, ⟨_, made.relations⟩,
      _, made.direction⟩
  · rintro ⟨⟨⟨objectiveRow, isRow⟩, rows, areRows⟩, ⟨bounds, areBounds⟩,
      ⟨relations, areRelations⟩, direction, isDirection⟩
    exact ⟨⟨rows, bounds, objectiveRow, relations, direction, none⟩,
      areRows, areBounds, isRow, areRelations, isDirection, rfl⟩

namespace MadeOf

variable {matrices : Matrices} {width : Nat}

/--
There is a row, a bound and a relation for each constraint, and all rows have the
width of the objective.
-/
theorem hasSize
    (made : MadeOf matrices objective constraints width) :
    matrices.HasSize constraints.length width where
  rowCount := made.rows.length_eq.symm
  boundCount := made.bounds.length_eq.symm
  relationCount := made.relations.length_eq.symm
  rowWidth row member := by
    obtain ⟨line, _, isRow⟩ := exists_mem_of_forall₂ made.rows member
    exact length_of_coefficients isRow
  coefficientCount := length_of_coefficients made.objectiveRow

/-- A right-hand side has no sign. -/
theorem bound_inRange
    (made : MadeOf matrices objective constraints width) :
    ∀ bound ∈ matrices.b, 0 ≤ bound ∧ bound ≤ Numeral.maxValue := by
  intro bound member
  obtain ⟨line, _, token, found, read⟩ := exists_mem_of_forall₂ made.bounds member
  obtain ⟨rfl, fits⟩ := (rightHandSide_value_iff found).mp read
  exact ⟨Int.natCast_nonneg _, fits⟩

end MadeOf

end Assembly

section Clean

variable {lines : List String}

theorem Clean.exists_cons (clean : Clean lines) :
    ∃ objective first others, lines = objective :: first :: others := by
  match lines, clean.someConstraint with
  | objective :: first :: others, _ =>
      exact ⟨objective, first, others, rfl⟩

/-- What has been built is made of all lines, which are buildable. -/
theorem madeOf_of_matrices
    {objective : String}
    {constraints : List String}
    {matrices : Matrices}
    (success :
      (dimensionsOf (objective :: constraints) >>= assemble (objective :: constraints)) =
        .ok matrices) :
    ∃ width, MadeOf matrices objective constraints width ∧
      Buildable (objective :: constraints) width := by
  obtain ⟨dimensions, found, assembled⟩ := bind_eq_ok_iff.mp success
  have made := (assemble_eq_ok_iff (constraintCount_of_dimensionsOf found)).mp assembled
  obtain ⟨enterable, bounds, _, _⟩ := exists_madeOf_iff.mp ⟨matrices, made⟩
  refine ⟨_, made, ?_, (isGreatest_of_dimensionsOf found (List.cons_ne_nil _ _)).1,
    enterable, ?_⟩
  · intro line member
    obtain ⟨width, ⟨token, last, _⟩, _⟩ :=
      exists_dimensionsOf_iff.mp ⟨dimensions, found⟩ line member
    exact ⟨token, mem_of_lastVariable? last⟩
  · intro line member token isBound
    obtain ⟨bound, other, found, read⟩ := bounds line member
    rw [found] at isBound
    cases isBound
    obtain ⟨rfl, fits⟩ := (rightHandSide_value_iff found).mp read
    exact fits

/-- A problem with matrices has a variable at least. -/
theorem Buildable.width_pos
    {width : Nat}
    (buildable : Buildable lines width) :
    1 ≤ width := by
  obtain ⟨line, member, token, last, number, _⟩ := buildable.widest.1
  obtain ⟨isToken, isVariable⟩ := mem_of_lastVariable? last
  obtain ⟨index, ⟨isNumber, _⟩, positive, _⟩ :=
    (buildable.enterable line member).indices token isToken isVariable
  rwa [← number, isNumber]

/-- Buildable lines have dimensions. -/
theorem Buildable.dimensionsOf_eq
    {width : Nat}
    (buildable : Buildable lines width)
    (filled : lines ≠ []) :
    dimensionsOf lines = .ok ⟨lines.length - 1, width⟩ := by
  obtain ⟨dimensions, found⟩ : ∃ dimensions, dimensionsOf lines = .ok dimensions := by
    rw [exists_dimensionsOf_iff]
    intro line member
    obtain ⟨token, isToken, isVariable⟩ := buildable.someVariable line member
    obtain ⟨last, isLast⟩ := exists_lastVariable? isToken isVariable
    obtain ⟨inLine, lastVariable⟩ := mem_of_lastVariable? isLast
    obtain ⟨index, hasIndex, positive, _⟩ :=
      (buildable.enterable line member).indices last inLine lastVariable
    exact ⟨index, ⟨last, isLast, hasIndex⟩, Nat.ne_of_gt positive⟩
  have width := (isGreatest_of_dimensionsOf found filled).1.unique buildable.widest
  rw [found, ← width, ← constraintCount_of_dimensionsOf found]

/-- The matrices of clean lines can be built exactly if the lines are buildable. -/
theorem exists_matrices_iff (clean : Clean lines) :
    (∃ matrices, (dimensionsOf lines >>= assemble lines) = .ok matrices) ↔
      ∃ width, Buildable lines width := by
  obtain ⟨objective, first, others, rfl⟩ := clean.exists_cons
  constructor
  · rintro ⟨matrices, success⟩
    obtain ⟨width, _, buildable⟩ := madeOf_of_matrices success
    exact ⟨width, buildable⟩
  · rintro ⟨width, buildable⟩
    rw [buildable.dimensionsOf_eq (List.cons_ne_nil _ _)]
    obtain ⟨matrices, made⟩ :
        ∃ matrices, MadeOf matrices objective (first :: others) width := by
      refine exists_madeOf_iff.mpr ⟨buildable.enterable, ?_, ?_, ?_⟩
      · intro line member
        obtain ⟨token, found⟩ :=
          Option.isSome_iff_exists.mp (clean.rightHandSide line member)
        refine ⟨_, token, found, (rightHandSide_value_iff found).mpr ⟨rfl, ?_⟩⟩
        exact buildable.bounds line member token found
      · intro line member
        exact Option.isSome_iff_exists.mp (clean.relation line member)
      · exact Option.isSome_iff_exists.mp (clean.direction objective rfl)
    exact ⟨matrices, (assemble_eq_ok_iff rfl).mpr made⟩

theorem failsOnly_coefficientRows
    (dimensions : Dimensions)
    (constraints : List (List Token)) :
    FailsOnly Failure.Unbuildable (coefficientRows dimensions constraints) :=
  (FailsOnly.mapM fun _ _ => failsOnly_coefficients _ _).bind fun _ _ => .ok _

/-- What is looked for in every constraint is missing from none. -/
theorem failsOnly_forEachConstraint
    {find : Nat → List Token → Except Failure α}
    {constraints : List String}
    (each : ∀ line ∈ constraints, ∀ number,
      FailsOnly Failure.Unbuildable (find number (tokenize line))) :
    FailsOnly Failure.Unbuildable (forEachConstraint find (constraints.map tokenize)) := by
  refine FailsOnly.mapM fun numbered member => ?_
  obtain ⟨line, isLine, isTokens⟩ :=
    List.mem_map.mp (List.fst_mem_of_mem_zipIdx member)
  rw [← isTokens]
  exact each line isLine numbered.2

/-- Clean lines lack nothing but variables. -/
theorem failsOnly_matrices (clean : Clean lines) :
    FailsOnly Failure.Unbuildable (dimensionsOf lines >>= assemble lines) := by
  obtain ⟨objective, first, others, rfl⟩ := clean.exists_cons
  have bounds :
      FailsOnly Failure.Unbuildable (rightHandSides ((first :: others).map tokenize)) := by
    refine failsOnly_forEachConstraint fun line member number => ?_
    obtain ⟨token, found⟩ := Option.isSome_iff_exists.mp (clean.rightHandSide line member)
    rw [rightHandSide, found]
    exact failsOnly_integerValue token.text
  have relations :
      FailsOnly Failure.Unbuildable (relations ((first :: others).map tokenize)) := by
    refine failsOnly_forEachConstraint fun line member number => ?_
    obtain ⟨found, isRelation⟩ :=
      Option.isSome_iff_exists.mp (clean.relation line member)
    rw [relation, isRelation]
    exact .ok found
  have direction : FailsOnly Failure.Unbuildable (direction (tokenize objective)) := by
    obtain ⟨found, isDirection⟩ :=
      Option.isSome_iff_exists.mp (clean.direction objective rfl)
    rw [Formulation.direction, isDirection]
    exact .ok found
  refine (failsOnly_dimensionsOf _).bind fun dimensions _ => ?_
  refine (FailsOnly.ok (tokenize objective)).bind fun _ isObjective => ?_
  cases isObjective
  refine (failsOnly_coefficientRows _ _).bind fun _ _ => bounds.bind fun _ _ => ?_
  refine (failsOnly_coefficients _ _).bind fun _ _ => relations.bind fun _ _ => ?_
  exact direction.bind fun _ _ => .ok _

end Clean

end LinearProgram.Formulation
