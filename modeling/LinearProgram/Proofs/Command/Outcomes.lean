import LinearProgram.Command.Plan
import LinearProgram.Proofs.Formulation.SoundDraft

namespace LinearProgram

/-!
# How far a command gets

What a command comes to depends on what a check of its problem finds (`Finds`), if
there is a problem to check at all (`openChecked_cases`).
-/

namespace Formulation

/-- The formulation that a first check leaves. -/
def ofDiagnosis (diagnosis : Diagnosis) : Formulation :=
  ⟨diagnosis.lines, some diagnosis.diagnostics, diagnosis.terminator⟩

end Formulation

namespace Command

open Formulation (Diagnosis Diagnostic)

/-- A source states a problem in which a check finds so and so. -/
def Finds
    (read : String → Except FileError String)
    (source : Source)
    (diagnosis : Diagnosis) : Prop :=
  ∃ formulation,
    Formulation.ofSource read source.file source.text source.delimiter = .ok formulation ∧
      Formulation.diagnose formulation.lines = .ok diagnosis

section Finds

variable
  {read : String → Except FileError String}
  {source : Source}
  {diagnosis : Diagnosis}

/-- A problem has not been checked when it is opened. -/
theorem ofLines_of_ofSource
    {file text : Option String}
    {delimiter : String}
    {formulation : Formulation}
    (success : Formulation.ofSource read file text delimiter = .ok formulation) :
    formulation = .ofLines formulation.lines := by
  unfold Formulation.ofSource at success
  split at success
  · split at success <;> cases success
    rfl
  · next piece =>
      cases lines : Formulation.linesOfText piece delimiter <;> rw [lines] at success <;>
        cases success
      rfl
  · cases success
  · cases success

/-- What a check finds is what a command goes on with. -/
theorem openChecked_of_finds (finds : Finds read source diagnosis) :
    openChecked read source = .ok (.ofDiagnosis diagnosis) := by
  obtain ⟨formulation, opened, found⟩ := finds
  rw [openChecked, openProblem, opened, ofLines_of_ofSource opened]
  change during .checkingProblem (Formulation.check (.ofLines formulation.lines)) = _
  rw [Formulation.check, Formulation.ofLines, found]
  cases terminator : diagnosis.terminator <;>
    simp [Formulation.ofDiagnosis, terminator, during, Except.mapError, bind, Except.bind,
      pure, Except.pure]

/-- A source states a problem that can be checked, or the outcome is a failure. -/
theorem openChecked_cases
    (read : String → Except FileError String)
    (source : Source) :
    (∃ diagnosis, Finds read source diagnosis) ∨
      (∀ diagnosis, ¬ Finds read source diagnosis) ∧
        ∃ activity failure, openChecked read source = .error (.failed activity failure) := by
  cases opened :
      Formulation.ofSource read source.file source.text source.delimiter with
  | error failure =>
      refine .inr ⟨?_, .readingProblem, failure, ?_⟩
      · rintro diagnosis ⟨formulation, success, _⟩
        rw [opened] at success
        cases success
      · rw [openChecked, openProblem, opened]
        rfl
  | ok formulation =>
      cases found : Formulation.diagnose formulation.lines with
      | ok diagnosis =>
          exact .inl ⟨diagnosis, formulation, opened, found⟩
      | error failure =>
          refine .inr ⟨?_, .checkingProblem, failure, ?_⟩
          · rintro diagnosis ⟨other, success, otherFound⟩
            rw [opened] at success
            cases success
            rw [found] at otherFound
            cases otherFound
          · rw [openChecked, openProblem, opened]
            change during .checkingProblem formulation.check = _
            rw [Formulation.check, found]
            rfl

/-- There is but one outcome of checking a source. -/
theorem Finds.unique
    (finds : Finds read source diagnosis)
    {other : Diagnosis}
    (otherFinds : Finds read source other) :
    diagnosis = other := by
  obtain ⟨formulation, opened, found⟩ := finds
  obtain ⟨same, otherOpened, otherFound⟩ := otherFinds
  rw [opened] at otherOpened
  cases otherOpened
  rw [found] at otherFound
  cases otherFound
  rfl

/-- What a check leaves is sound. -/
theorem Finds.sound (finds : Finds read source diagnosis) :
    ∃ draft : Draft, draft.Sound ∧ draft.formulation = .ofDiagnosis diagnosis := by
  obtain ⟨formulation, opened, found⟩ := finds
  have sound := (Draft.sound_ofLines (Formulation.isNormal_of_ofSource opened)).check
  refine ⟨_, sound, ?_⟩
  have lines : (Draft.ofLines formulation.lines).lines = formulation.lines := rfl
  rw [Draft.check, lines, found]
  cases terminator : diagnosis.terminator <;>
    simp [Draft.formulation, Draft.ofLines, Formulation.ofDiagnosis, terminator]

/-- A check keeps no more lines than there were. -/
theorem Finds.length_le
    (finds : Finds read source diagnosis)
    {count : Nat}
    (bounded : ∀ formulation,
      Formulation.ofSource read source.file source.text source.delimiter =
        .ok formulation → formulation.lines.length ≤ count) :
    diagnosis.lines.length ≤ count := by
  obtain ⟨formulation, opened, found⟩ := finds
  refine Nat.le_trans ?_ (bounded formulation opened)
  cases lines : formulation.lines with
  | nil =>
      rw [lines] at found
      cases found
  | cons objective following =>
      obtain ⟨other, outcome, diagnosed⟩ :=
        Formulation.diagnose_diagnosed objective following
      rw [lines, outcome] at found
      cases found
      obtain ⟨kept, keptLines, isPrefix⟩ := diagnosed.lines_eq
      rw [keptLines]
      exact Nat.succ_le_succ isPrefix.length_le

end Finds

section Run

variable {command : Command} {folder : Folder} {outcome : Outcome}

theorem run_of_error (refused : command.attempt folder.read = .error outcome) :
    command.run folder = (outcome, folder) := by
  rw [run, plan, refused]

/-- A command with nothing to save leaves all files alone. -/
theorem run_of_finish (planned : command.attempt folder.read = .ok (.finish outcome)) :
    command.run folder = (outcome, folder) := by
  rw [run, plan, planned]

/-- A command that saves a file announces it. -/
theorem run_of_save
    {file text : String}
    {written : Folder}
    (planned : command.attempt folder.read = .ok (.save file text))
    (success : folder.write file text = .ok written) :
    command.run folder = (.success ("✓ wrote " ++ file ++ "\n"), written) := by
  rw [run, plan, planned]
  simp only [success]
  rfl

end Run

/-- The report of a diagnosis on a line of its own. -/
def reportLine (diagnosis : Diagnosis) : String :=
  Formulation.report (diagnosis.diagnostics.map Diagnostic.message) ++ "\n"

section Outcomes

variable
  {folder : Folder}
  {source : Source}
  {diagnosis : Diagnosis}
  {dual : Bool}
  {output : String}

/-- A problem with errors is refused with their report. -/
theorem openValid_of_errors
    (finds : Finds folder.read source diagnosis)
    (errors : diagnosis.diagnostics ≠ []) :
    openValid folder.read source = .error ⟨1, "", reportLine diagnosis⟩ := by
  rw [openValid, openChecked_of_finds finds]
  simp [bind, Except.bind, Formulation.ofDiagnosis, Formulation.diagnostics, errors,
    Formulation.reportText, reportLine, throw, throwThe, MonadExceptOf.throw]

/-- A problem without errors may be measured and built. -/
theorem openValid_of_noErrors
    (finds : Finds folder.read source diagnosis)
    (noErrors : diagnosis.diagnostics = []) :
    openValid folder.read source = .ok (.ofDiagnosis diagnosis) := by
  rw [openValid, openChecked_of_finds finds]
  simp [bind, Except.bind, Formulation.ofDiagnosis, Formulation.diagnostics, noErrors,
    pure, Except.pure]

theorem openValid_of_error
    {refusal : Outcome}
    (refused : openChecked folder.read source = .error refusal) :
    openValid folder.read source = .error refusal := by
  rw [openValid, refused]
  rfl

/-- The matrices are neither printed nor written if there is no problem without errors. -/
theorem run_of_openValid_error
    {refusal : Outcome}
    (refused : openValid folder.read source = .error refusal) :
    (∀ format, (matrices source dual format).run folder = (refusal, folder)) ∧
      (dump source output dual).run folder = (refusal, folder) := by
  refine ⟨fun format => run_of_error ?_, run_of_error ?_⟩
  · rw [attempt, refused]
    rfl
  · rw [attempt, refused]
    rfl

/-- The dimensions of a problem with errors are not told. -/
theorem sizeText_of_errors (errors : diagnosis.diagnostics ≠ []) :
    sizeText (.ofDiagnosis diagnosis) = "" := by
  have refused : ∃ failure,
      (Formulation.ofDiagnosis diagnosis).requireValid = .error failure := by
    obtain ⟨first, others, diagnostics⟩ := List.exists_cons_of_ne_nil errors
    rw [Formulation.requireValid]
    simp only [Formulation.ofDiagnosis, diagnostics]
    split <;> exact ⟨_, rfl⟩
  obtain ⟨failure, refused⟩ := refused
  rw [sizeText, Formulation.dimensions, refused]
  rfl

/-- A check ends with its report, and fails if there is anything in it. -/
theorem run_check
    (finds : Finds folder.read source diagnosis) :
    (check source).run folder =
      (⟨if diagnosis.diagnostics = [] then 0 else 1,
        reportLine diagnosis ++ sizeText (.ofDiagnosis diagnosis), ""⟩, folder) := by
  apply run_of_finish
  rw [attempt, openChecked_of_finds finds]
  simp [bind, Except.bind, pure, Except.pure, checkOutcome, Formulation.ofDiagnosis,
    Formulation.diagnostics, Formulation.reportText, reportLine]

theorem run_check_of_error
    {refusal : Outcome}
    (refused : openChecked folder.read source = .error refusal) :
    (check source).run folder = (refusal, folder) := by
  apply run_of_error
  rw [attempt, refused]
  rfl

end Outcomes

end Command

end LinearProgram
