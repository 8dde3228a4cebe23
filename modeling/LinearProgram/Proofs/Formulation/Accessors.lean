import LinearProgram.Dump.File
import LinearProgram.Formulation.Query
import LinearProgram.Proofs.Formulation.Building

namespace LinearProgram

/-!
# Requests for one matrix and for all

The matrices of a problem are those that are made one by one, in the order of
their names, so the first of them that cannot be made is why there are none
(`agrees_assemble`). The dual has every matrix as soon as the problem has all of
its own (`dualMatrix_of_isSpelled`).
-/

namespace MatrixName

/-- A spelling of a name, whose case does not matter. -/
def IsSpelled (name : MatrixName) (spelling : String) : Prop :=
  Text.lowercase spelling = Text.lowercase name.text ∨
    name = .varConstr ∧ Text.lowercase spelling = "var_constr"

theorem isSpelled_text (name : MatrixName) : name.IsSpelled name.text :=
  .inl rfl

theorem ofText?_eq_some_of_isSpelled
    {name : MatrixName}
    {spelling : String}
    (isSpelled : name.IsSpelled spelling) :
    ofText? spelling = some name := by
  rcases isSpelled with lowered | ⟨rfl, lowered⟩
  · rw [ofText?, lowered]
    exact ofText?_text name
  · rw [ofText?, lowered]
    rfl

end MatrixName

namespace Matrices

/-- The matrices that every problem has, in the order of their names. -/
def values (matrices : Matrices) : List MatrixValue :=
  MatrixName.primal.filterMap matrices.get?

/-- A dual has all matrices. -/
theorem exists_get?_dual (primal : Matrices) (name : MatrixName) :
    ∃ value, primal.dual.get? name = some value := by
  cases name <;> exact ⟨_, rfl⟩

end Matrices

/-- Requests for single matrices agree with a request for all of them. -/
structure Agrees
    (all : Except ε Matrices)
    (single : MatrixName → Except ε MatrixValue) : Prop where
  possible : (∃ matrices, all = .ok matrices) ↔
    ∀ name ∈ MatrixName.primal, ∃ value, single name = .ok value
  values (matrices : Matrices) : all = .ok matrices →
    ∀ name ∈ MatrixName.primal,
      ∃ value, matrices.get? name = some value ∧ single name = .ok value
  /-- The first matrix that cannot be made is to blame. -/
  failure (failure : ε) : all = .error failure ↔
    FirstFailure single MatrixName.primal failure

/-- It is enough that the values are made in the order of their names. -/
theorem Agrees.of_mapM
    {all : Except ε Matrices}
    {single : MatrixName → Except ε MatrixValue}
    (inOrder : MatrixName.primal.mapM single = all.map Matrices.values) :
    Agrees all single where
  possible := by
    simp only [← exists_forall₂_iff, ← mapM_eq_ok_iff, inOrder]
    cases all <;> simp [Except.map]
  values := by
    rintro matrices rfl
    have each := mapM_eq_ok_iff.mp inOrder
    simp only [MatrixName.primal, Matrices.values, List.filterMap, Matrices.get?,
      List.forall₂_cons, List.forall₂_nil_right_iff] at each
    obtain ⟨a, b, c, eqin, minMax, _⟩ := each
    intro name member
    simp only [MatrixName.primal, List.mem_cons, List.not_mem_nil, or_false] at member
    rcases member with rfl | rfl | rfl | rfl | rfl
    · exact ⟨_, rfl, a⟩
    · exact ⟨_, rfl, b⟩
    · exact ⟨_, rfl, c⟩
    · exact ⟨_, rfl, eqin⟩
    · exact ⟨_, rfl, minMax⟩
  failure failure := by
    rw [← mapM_eq_error_iff, inOrder]
    cases all <;> simp [Except.map]

namespace Formulation

/-- The matrices of a problem with an objective are made in the order of their names. -/
theorem mapM_assembleOne
    {lines : List String}
    (filled : lines ≠ [])
    (dimensions : Dimensions) :
    MatrixName.primal.mapM (assembleOne lines dimensions) =
      (assemble lines dimensions).map Matrices.values := by
  obtain ⟨objective, following, rfl⟩ := List.exists_cons_of_ne_nil filled
  simp only [MatrixName.primal, List.mapM_cons, List.mapM_nil, assembleOne, assemble,
    objectiveTokens, List.head?_cons, bind, Except.bind, pure, Except.pure]
  cases coefficientRows dimensions (constraintTokens (objective :: following)) with
  | error failure =>
      rfl
  | ok rows =>
  cases rightHandSides (constraintTokens (objective :: following)) with
  | error failure =>
      rfl
  | ok bounds =>
  cases coefficients dimensions.variableCount (tokenize objective) with
  | error failure =>
      rfl
  | ok entries =>
  cases relations (constraintTokens (objective :: following)) with
  | error failure =>
      rfl
  | ok found =>
  cases direction (tokenize objective) with
  | error failure =>
      rfl
  | ok direction =>
      rfl

/-- Whatever the dimensions, the matrices of some lines are those that are made one by one. -/
theorem agrees_assemble
    {lines : List String}
    (filled : lines ≠ [])
    (dimensions : Dimensions) :
    Agrees (assemble lines dimensions) (assembleOne lines dimensions) :=
  .of_mapM (mapM_assembleOne filled dimensions)

/-! The same of a formulation, whose dimensions have to be told first. -/

variable {formulation : Formulation}

/-- A matrix may be asked for by any spelling of its name. -/
theorem matrixName_of_isSpelled
    {name : MatrixName}
    {spelling : String}
    (isSpelled : name.IsSpelled spelling) :
    matrixName spelling = .ok name := by
  have found := MatrixName.ofText?_eq_some_of_isSpelled isSpelled
  rw [matrixName, found, if_neg]
  rintro rfl
  cases found

theorem lines_ne_nil_of_dimensions
    {dimensions : Dimensions}
    (success : formulation.dimensions = .ok dimensions) :
    formulation.lines ≠ [] := by
  intro noLines
  rw [Formulation.dimensions, requireValid, noLines] at success
  cases success

/-- The spelling of a name makes no difference to the matrix. -/
theorem matrix_eq_of_isSpelled
    {name : MatrixName}
    {spelling : String}
    (isSpelled : name.IsSpelled spelling) :
    formulation.matrix spelling = formulation.matrix name.text := by
  rw [matrix, matrix, matrixName_of_isSpelled isSpelled,
    matrixName_of_isSpelled name.isSpelled_text]

/-- The matrices of a formulation are those that are asked for one by one. -/
theorem agrees_matrices (formulation : Formulation) :
    Agrees formulation.matrices fun name => formulation.matrix name.text := by
  apply Agrees.of_mapM
  simp only [matrix, matrixName_of_isSpelled (MatrixName.isSpelled_text _), matrices]
  cases measured : formulation.dimensions with
  | error failure =>
      rfl
  | ok dimensions =>
      exact mapM_assembleOne (lines_ne_nil_of_dimensions measured) dimensions

/-- Each matrix of the dual is one of the dual's matrices, if the problem has matrices. -/
theorem dualMatrix_of_isSpelled
    {matrices : Matrices}
    (success : formulation.matrices = .ok matrices)
    {name : MatrixName}
    {spelling : String}
    (isSpelled : name.IsSpelled spelling) :
    ∃ value, matrices.dual.get? name = some value ∧
      formulation.dualMatrix spelling = .ok value := by
  obtain ⟨value, found⟩ := matrices.exists_get?_dual name
  refine ⟨value, found, ?_⟩
  rw [dualMatrix, matrixName_of_isSpelled isSpelled, dualMatrices, success]
  simp only [bind, Except.bind, Except.map, found]
  rfl

/-- A matrix of the dual is refused if the matrices of the problem are. -/
theorem dualMatrix_of_error
    {failure : Failure}
    (refused : formulation.matrices = .error failure)
    {name : MatrixName}
    {spelling : String}
    (isSpelled : name.IsSpelled spelling) :
    formulation.dualMatrix spelling = .error failure := by
  rw [dualMatrix, matrixName_of_isSpelled isSpelled, dualMatrices, refused]
  rfl

end Formulation

/-! That a matrix is not part of the dual is never why a request fails. -/

/-- A failure that does not blame the dual. -/
def Failure.SparesDual (failure : Failure) : Prop :=
  ∀ name, failure ≠ .argument (.notInDual name)

/-- What cannot be built is refused for its lines, not for what a dual does without. -/
theorem Failure.Unbuildable.sparesDual
    {failure : Failure}
    (unbuildable : failure.Unbuildable) :
    failure.SparesDual := by
  cases unbuildable <;> exact fun _ => nofun

namespace Formulation

theorem failsOnly_ofTokens (tokens : List Token) :
    FailsOnly Failure.SparesDual (VariableSet.ofTokens tokens) := by
  refine .bind ?_ fun _ _ => .ok _
  rw [lastIndex]
  split
  · exact (failsOnly_variableIndex _).imp fun _ => Failure.Unbuildable.sparesDual
  · exact .ok 0

theorem failsOnly_widestFrom (widest : VariableSet) (lines : List String) :
    FailsOnly Failure.SparesDual (widestFrom widest lines) := by
  induction lines generalizing widest with
  | nil =>
      exact .ok widest
  | cons line rest inductionHypothesis =>
      exact (failsOnly_ofTokens _).bind fun _ _ => inductionHypothesis _

theorem failsOnly_assembleOne
    (lines : List String)
    (dimensions : Dimensions)
    (name : MatrixName) :
    FailsOnly Failure.SparesDual (assembleOne lines dimensions name) := by
  have objective : FailsOnly Failure.SparesDual (objectiveTokens lines) := by
    rw [objectiveTokens]
    split
    · exact .ok _
    · exact .error (by rintro _ ⟨⟩)
  have unbuildable := fun failure => @Failure.Unbuildable.sparesDual failure
  cases name with
  | a =>
      exact ((failsOnly_coefficientRows _ _).imp unbuildable).bind fun _ _ => .ok _
  | b =>
      refine (FailsOnly.mapM fun numbered _ => ?_).bind fun _ _ => .ok _
      rw [rightHandSide]
      split
      · exact (failsOnly_integerValue _).imp unbuildable
      · exact .error (by rintro _ ⟨⟩)
  | c =>
      refine objective.bind fun _ _ => .bind ?_ fun _ _ => .ok _
      exact (failsOnly_coefficients _ _).imp unbuildable
  | eqin =>
      refine (FailsOnly.mapM fun numbered _ => ?_).bind fun _ _ => .ok _
      rw [relation]
      split
      · exact .ok _
      · exact .error (by rintro _ ⟨⟩)
  | minMax =>
      refine objective.bind fun _ _ => .bind ?_ fun _ _ => .ok _
      rw [direction]
      split
      · exact .ok _
      · exact .error (by rintro _ ⟨⟩)
  | varConstr =>
      exact .error (by rintro _ ⟨⟩)

variable (formulation : Formulation)

theorem failsOnly_dimensions : FailsOnly Failure.SparesDual formulation.dimensions := by
  refine .bind ?_ fun _ _ =>
    (failsOnly_dimensionsOf _).imp fun _ => Failure.Unbuildable.sparesDual
  rw [requireValid]
  split
  · exact .error fun _ => nofun
  · split
    · exact .error fun _ => nofun
    · exact .ok ()
    · exact .error fun _ => nofun

theorem failsOnly_matrixName (spelling : String) :
    FailsOnly Failure.SparesDual (matrixName spelling) := by
  rw [matrixName]
  split
  · exact .error fun _ => nofun
  · split
    · exact .ok _
    · exact .error fun _ => nofun

theorem failsOnly_matrix (spelling : String) :
    FailsOnly Failure.SparesDual (formulation.matrix spelling) :=
  (failsOnly_matrixName spelling).bind fun _ _ =>
    formulation.failsOnly_dimensions.bind fun _ _ => failsOnly_assembleOne _ _ _

/-- The matrices fail as one of them does. -/
theorem failsOnly_matricesSpared : FailsOnly Failure.SparesDual formulation.matrices := by
  intro failure refused
  obtain ⟨_, name, _, _, _, blamed⟩ :=
    (formulation.agrees_matrices.failure failure).mp refused
  exact formulation.failsOnly_matrix name.text failure blamed

/-- The dual has a matrix under every name that is known. -/
theorem failsOnly_dualMatrix (spelling : String) :
    FailsOnly Failure.SparesDual (formulation.dualMatrix spelling) := by
  refine (failsOnly_matrixName spelling).bind fun name _ => ?_
  refine formulation.failsOnly_matricesSpared.map.bind fun dual isDual => ?_
  cases outcome : formulation.matrices with
  | error failure =>
      rw [outcome] at isDual
      cases isDual
  | ok matrices =>
      rw [outcome] at isDual
      cases isDual
      obtain ⟨value, found⟩ := matrices.exists_get?_dual name
      rw [found]
      exact .ok value

theorem failsOnly_matricesOf (dual : Bool) :
    FailsOnly Failure.SparesDual (formulation.matricesOf dual) := by
  cases dual with
  | false =>
      exact formulation.failsOnly_matricesSpared
  | true =>
      exact formulation.failsOnly_matricesSpared.map

/-- No question is refused for what a dual does without. -/
theorem failsOnly_answer (query : Query) :
    FailsOnly Failure.SparesDual (formulation.answer query) := by
  cases query with
  | report =>
      exact .ok _
  | lineVariables line =>
      refine .map ?_
      rw [lineVariables]
      split
      · exact failsOnly_ofTokens _
      · exact .error fun _ => nofun
  | allVariables =>
      exact (failsOnly_widestFrom _ _).map.map
  | dimensions =>
      exact formulation.failsOnly_dimensions.map
  | matrix spelling =>
      exact (formulation.failsOnly_matrix spelling).map
  | dualMatrix spelling =>
      exact (formulation.failsOnly_dualMatrix spelling).map
  | matrices =>
      exact formulation.failsOnly_matricesSpared.map
  | dualMatrices =>
      exact formulation.failsOnly_matricesSpared.map.map

theorem failsOnly_ofSource
    (read : String → Except FileError String)
    (file text : Option String)
    (delimiter : String) :
    FailsOnly Failure.SparesDual (ofSource read file text delimiter) := by
  unfold ofSource
  split
  · split
    · exact .ok _
    · exact .error fun _ => nofun
  · refine .map ?_
    rw [linesOfText]
    split
    · exact .error fun _ => nofun
    · exact .ok _
  · exact .error fun _ => nofun
  · exact .error fun _ => nofun

theorem failsOnly_diagnose (lines : List String) :
    FailsOnly Failure.SparesDual (diagnose lines) := by
  cases lines with
  | nil =>
      exact .error fun _ => nofun
  | cons objective following =>
      obtain ⟨diagnosis, outcome, _⟩ := diagnose_diagnosed objective following
      rw [outcome]
      exact .ok diagnosis

end Formulation

/-- A dump of a dual is not refused for what the dual does without. -/
theorem Dump.failsOnly_ofFile (contents : Except FileError String) (dual : Bool) :
    FailsOnly Failure.SparesDual (Dump.ofFile contents dual) := by
  unfold Dump.ofFile
  split
  · exact .error fun _ => nofun
  · next text =>
      cases Dump.read text dual with
      | error error =>
          exact .error fun _ => nofun
      | ok matrices =>
          exact .ok matrices

end LinearProgram
