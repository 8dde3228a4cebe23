import LinearProgram.Proofs.Formulation.Accessors
import LinearProgram.Proofs.Workspace.Invariant

namespace LinearProgram

/-!
# Single matrices in a session

Whatever a session has done before, asking for one matrix tells what asking for
all of them tells, and if there are no matrices, the first that is asked for in
vain says why (`accessors_agree`).
-/

theorem Draft.failsOnly_check (draft : Draft) :
    FailsOnly Failure.SparesDual draft.check.1 := by
  have failsOnly := Formulation.failsOnly_diagnose draft.lines
  rw [Draft.check]
  cases outcome : Formulation.diagnose draft.lines with
  | error failure =>
      exact .error (failsOnly failure outcome)
  | ok diagnosis =>
      exact .ok _

namespace Workspace

/-- The answer to a question, or why it is refused. -/
def answer (workspace : Workspace) (query : Query) : Except Refusal Answer :=
  (workspace.step (.ask query)).1

/-- Each of the given matrices, and of their dual, is told by any spelling of its name. -/
structure TellsEach (workspace : Workspace) (matrices : Matrices) : Prop where
  matrix (name : MatrixName) (spelling : String) :
    name ∈ MatrixName.primal → name.IsSpelled spelling →
    ∃ value, matrices.get? name = some value ∧
      workspace.answer (.matrix spelling) = .ok (.value value)
  dualMatrices : workspace.answer .dualMatrices = .ok (.matrices matrices.dual)
  /-- The dual has its restrictions, too. -/
  dualMatrix (name : MatrixName) (spelling : String) :
    name.IsSpelled spelling →
    ∃ value, matrices.dual.get? name = some value ∧
      workspace.answer (.dualMatrix spelling) = .ok (.value value)

/-- The first matrix that is not told is refused as is every question about the dual. -/
structure RefusesEach (workspace : Workspace) (refusal : Refusal) : Prop where
  matrix (spelling : MatrixName → String) :
    (∀ name : MatrixName, name.IsSpelled (spelling name)) →
    FirstFailure (fun name => workspace.answer (.matrix (spelling name)))
      MatrixName.primal refusal
  dualMatrices : workspace.answer .dualMatrices = .error refusal
  dualMatrix (name : MatrixName) (spelling : String) :
    name.IsSpelled spelling → workspace.answer (.dualMatrix spelling) = .error refusal

/-- Questions about single matrices are answered like the question about all of them. -/
structure AccessorsAgree (workspace : Workspace) : Prop where
  told (matrices : Matrices) :
    workspace.answer .matrices = .ok (.matrices matrices) → workspace.TellsEach matrices
  refused (refusal : Refusal) :
    workspace.answer .matrices = .error refusal → workspace.RefusesEach refusal
  /-- No step is ever refused because a matrix is missing from a dual. -/
  sparesDual (taken : Step) (name : MatrixName) :
    (workspace.step taken).1 ≠ .error (.failure (.argument (.notInDual name)))

variable {workspace : Workspace}

theorem answer_of_none
    (closed : workspace.draft = none)
    (query : Query) :
    workspace.answer query = .error .noFormulation := by
  rw [answer, step, work, closed]

/-- Before a problem is opened every matrix is refused. -/
theorem refusesEach_of_none (closed : workspace.draft = none) :
    workspace.RefusesEach .noFormulation where
  matrix _ _ := ⟨[], .a, _, rfl, by simp, answer_of_none closed _⟩
  dualMatrices := answer_of_none closed _
  dualMatrix _ _ _ := answer_of_none closed _

/-- What a session says is what the formulation says that it has reached. -/
def Reflects (workspace : Workspace) (formulation : Formulation) : Prop :=
  ∀ query, workspace.answer query = (formulation.answer query).mapError .failure

/-- A sound workspace answers as the formulation of its draft does. -/
theorem Sound.reflects
    (sound : workspace.Sound)
    {draft : Draft}
    (opened : workspace.draft = some draft) :
    workspace.Reflects draft.formulation := by
  intro query
  rw [Workspace.answer, Workspace.step, work, opened, ← (sound draft opened).answer_fst]

namespace Reflects

variable {formulation : Formulation}

/-- A matrix is told under any spelling of its name. -/
theorem matrix_of_ok
    (reflects : workspace.Reflects formulation)
    {name : MatrixName}
    {spelling : String}
    (isSpelled : name.IsSpelled spelling)
    {value : MatrixValue}
    (success : formulation.matrix name.text = .ok value) :
    workspace.answer (.matrix spelling) = .ok (.value value) := by
  rw [reflects, Formulation.answer, Formulation.matrix_eq_of_isSpelled isSpelled, success]
  rfl

/-- Every accessor tells its part of the matrices that have been built. -/
theorem tellsEach
    (reflects : workspace.Reflects formulation)
    {matrices : Matrices}
    (success : formulation.matrices = .ok matrices) :
    workspace.TellsEach matrices where
  matrix name spelling member isSpelled := by
    obtain ⟨value, found, made⟩ :=
      formulation.agrees_matrices.values matrices success name member
    exact ⟨value, found, reflects.matrix_of_ok isSpelled made⟩
  dualMatrices := by
    rw [reflects, Formulation.answer, Formulation.dualMatrices, success]
    rfl
  dualMatrix name spelling isSpelled := by
    obtain ⟨value, found, made⟩ := Formulation.dualMatrix_of_isSpelled success isSpelled
    refine ⟨value, found, ?_⟩
    rw [reflects, Formulation.answer, made]
    rfl

theorem refusesEach
    (reflects : workspace.Reflects formulation)
    {failure : Failure}
    (refused : formulation.matrices = .error failure) :
    workspace.RefusesEach (.failure failure) where
  matrix spelling isSpelled := by
    refine ((formulation.agrees_matrices.failure failure).mp refused).imp ?_ ?_
    · intro name value success
      exact ⟨_, reflects.matrix_of_ok (isSpelled name) success⟩
    · intro name blamed
      rw [reflects, Formulation.answer, Formulation.matrix_eq_of_isSpelled (isSpelled name),
        blamed]
      rfl
  dualMatrices := by
    rw [reflects, Formulation.answer, Formulation.dualMatrices, refused]
    rfl
  dualMatrix name spelling isSpelled := by
    rw [reflects, Formulation.answer, Formulation.dualMatrix_of_error refused isSpelled]
    rfl

end Reflects

/-! No step is refused because a matrix is missing from a dual. -/

theorem ne_notInDual_of_failsOnly
    {outcome : Except Failure Answer}
    (failsOnly : FailsOnly Failure.SparesDual outcome)
    (name : MatrixName) :
    outcome.mapError Refusal.failure ≠ .error (.failure (.argument (.notInDual name))) := by
  cases outcome with
  | ok given =>
      exact nofun
  | error failure =>
      intro same
      cases same
      exact failsOnly _ rfl name rfl

/-- Work on a draft spares the dual if it does so on the draft itself. -/
theorem work_ne_notInDual
    {act : Draft → Except Failure Answer × Draft}
    (failsOnly : ∀ draft ∈ workspace.draft, FailsOnly Failure.SparesDual (act draft).1)
    (name : MatrixName) :
    (workspace.work act).1 ≠ .error (.failure (.argument (.notInDual name))) := by
  rw [work]
  cases opened : workspace.draft with
  | none =>
      rintro ⟨⟩
  | some draft =>
      exact ne_notInDual_of_failsOnly (failsOnly draft opened) name

/-- No step is refused for what a dual does without. -/
theorem Sound.step_ne_notInDual
    (sound : workspace.Sound)
    (taken : Step)
    (name : MatrixName) :
    (workspace.step taken).1 ≠ .error (.failure (.argument (.notInDual name))) := by
  cases taken with
  | load file text delimiter =>
      have failsOnly :=
        Formulation.failsOnly_ofSource workspace.folder.read file text delimiter
      rw [Workspace.step, load]
      split
      · rintro ⟨⟩
      · next failure refused =>
          intro same
          cases same
          exact failsOnly _ refused name rfl
  | check =>
      exact work_ne_notInDual (fun draft _ => draft.failsOnly_check.map) name
  | ask query =>
      refine work_ne_notInDual (fun draft opened => ?_) name
      rw [(sound draft opened).answer_fst]
      exact draft.formulation.failsOnly_answer query
  | writeDump file dual =>
      rw [Workspace.step, writeDump]
      cases opened : workspace.draft with
      | none =>
          rintro ⟨⟩
      | some draft =>
          have failsOnly := draft.formulation.failsOnly_matricesOf dual
          dsimp only
          rw [(sound draft opened).matricesOf_eq]
          cases outcome : draft.formulation.matricesOf dual with
          | error failure =>
              intro same
              cases same
              exact failsOnly _ outcome name rfl
          | ok matrices =>
              dsimp only
              cases workspace.folder.write file (Dump.write matrices) <;> rintro ⟨⟩
  | readDump file dual =>
      exact ne_notInDual_of_failsOnly (Dump.failsOnly_ofFile _ dual).map name

/-- In a sound workspace single matrices are told exactly as all of them are. -/
theorem Sound.accessorsAgree (sound : workspace.Sound) : workspace.AccessorsAgree where
  told matrices success := by
    cases opened : workspace.draft with
    | none =>
        rw [answer_of_none opened] at success
        cases success
    | some draft =>
        have reflects := sound.reflects opened
        rw [reflects, Formulation.answer] at success
        cases outcome : draft.formulation.matrices with
        | error failure =>
            rw [outcome] at success
            cases success
        | ok made =>
            rw [outcome] at success
            cases success
            exact reflects.tellsEach outcome
  refused refusal isRefused := by
    cases opened : workspace.draft with
    | none =>
        rw [answer_of_none opened] at isRefused
        cases isRefused
        exact refusesEach_of_none opened
    | some draft =>
        have reflects := sound.reflects opened
        rw [reflects, Formulation.answer] at isRefused
        cases outcome : draft.formulation.matrices with
        | error failure =>
            rw [outcome] at isRefused
            cases isRefused
            exact reflects.refusesEach outcome
        | ok made =>
            rw [outcome] at isRefused
            cases isRefused
  sparesDual := sound.step_ne_notInDual

/--
Single matrices and all of them are made alike from any lines, whatever the
dimensions, and told alike in any session.
-/
theorem accessors_agree :
    (∀ (lines : List String) (dimensions : Formulation.Dimensions), lines ≠ [] →
      Agrees (Formulation.assemble lines dimensions)
        (Formulation.assembleOne lines dimensions)) ∧
    ∀ workspace : Workspace, workspace.Reachable → workspace.AccessorsAgree :=
  ⟨fun _ dimensions filled => Formulation.agrees_assemble filled dimensions,
    fun _ reachable => reachable.sound.accessorsAgree⟩

/--
A right-hand side that is too large is why there are no matrices, although the
coefficients can be told. The restrictions of a dual go by two names.
-/
theorem accessors_agree_twoNames :
    let lines := ["max x1", "st x1 >= 99999999999999999999"]
    let failure : Failure := .invalidNumber "99999999999999999999"
    let workspace := (ofFolder .empty).after
      [.load none (some "Max 3x1 - x2|st x1 + 2x2 <= 4|x2 = 1|End") "|", .check]
    (Formulation.assemble lines ⟨1, 1⟩ = .error failure ∧
      FirstFailure (Formulation.assembleOne lines ⟨1, 1⟩) MatrixName.primal failure) ∧
    workspace.answer (.dualMatrix "VARconstr") = .ok (.value (.vector [1, 0])) ∧
      workspace.answer (.dualMatrix "Var_Constr") = .ok (.value (.vector [1, 0])) := by
  intro lines failure workspace
  have refused : Formulation.assemble lines ⟨1, 1⟩ = .error failure := by
    rfl
  have agrees := accessors_agree.1 lines ⟨1, 1⟩ (by decide)
  have told := (accessors_agree.2 workspace ⟨.empty, _, rfl⟩).told
    ⟨[[1, 2], [0, 1]], [4, 1], [3, -1], [.le, .eq], .max, none⟩ rfl
  obtain ⟨_, found, isTold⟩ := told.dualMatrix .varConstr "VARconstr" (.inl (by decide))
  obtain ⟨_, foundAgain, isToldAgain⟩ :=
    told.dualMatrix .varConstr "Var_Constr" (.inr ⟨rfl, by decide⟩)
  cases found
  cases foundAgain
  exact ⟨⟨refused, (agrees.failure failure).mp refused⟩, isTold, isToldAgain⟩

end Workspace

end LinearProgram
