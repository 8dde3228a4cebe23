import LinearProgram.Proofs.Command.Arguments
import LinearProgram.Proofs.Command.Outcomes
import LinearProgram.Proofs.Workspace.Files

namespace LinearProgram.Command

/-!
# Commands on one problem

A check, the printed matrices and the dump of a problem agree on whether there is
a problem, whether it has errors, and what its matrices are. A dump that has been
written is read as what would have been printed (`commands_agree`).
-/

open Formulation (Diagnosis)

/-- The exit code of a command and what it writes to its output streams, but for log lines. -/
def outcome (command : Command) (folder : Folder) : Outcome :=
  (command.run folder).1

/-- The files that a command leaves. -/
def leaves (command : Command) (folder : Folder) : Folder :=
  (command.run folder).2

/-- Refusals for the same reason, though a failure may be announced by the activity. -/
inductive RefusedAlike : Outcome → Outcome → Prop where
  | same (errors : String) : RefusedAlike ⟨1, "", errors⟩ ⟨1, "", errors⟩
  | announced (activity other : Activity) (failure : Failure) :
      RefusedAlike (.failed activity failure) (.failed other failure)

/-- Whatever announces it, a refusal ends with exit code one. -/
theorem RefusedAlike.code
    {outcome other : Outcome}
    (alike : RefusedAlike outcome other) :
    outcome.code = 1 ∧ other.code = 1 := by
  cases alike <;> exact ⟨rfl, rfl⟩

/-- A source states a problem without errors that has matrices, or a dual with matrices. -/
def Builds
    (read : String → Except FileError String)
    (source : Source)
    (dual : Bool)
    (made : Matrices) : Prop :=
  ∃ diagnosis, Finds read source diagnosis ∧ diagnosis.diagnostics = [] ∧
    (Formulation.ofDiagnosis diagnosis).matricesOf dual = .ok made

/-- The matrices of a source are printed and written, or both are refused. -/
inductive PrintedAndWritten
    (folder : Folder)
    (source : Source)
    (output : String)
    (dual : Bool) : Prop where
  | refused
      (printing writing : Outcome)
      (none : ∀ made, ¬ Builds folder.read source dual made)
      (alike : RefusedAlike printing writing)
      (printed : ∀ format, (matrices source dual format).run folder = (printing, folder))
      (wrote : (dump source output dual).run folder = (writing, folder))
  | made
      (made : Matrices)
      (written : Folder)
      (builds : Builds folder.read source dual made)
      (printed : ∀ format, (matrices source dual format).run folder =
        (.success (print made format), folder))
      (saved : folder.write output (Dump.write made) = .ok written)
      (wrote : (dump source output dual).run folder =
        (.success ("✓ wrote " ++ output ++ "\n"), written))

section Runs

variable {folder : Folder} {source : Source} {output : String} {dual : Bool}

/-- What goes wrong before the matrices are built goes wrong alike. -/
theorem printedAndWritten_of_error
    {errors : String}
    (refused : openValid folder.read source = .error ⟨1, "", errors⟩) :
    PrintedAndWritten folder source output dual := by
  obtain ⟨printed, wrote⟩ := run_of_openValid_error refused
  refine .refused _ _ ?_ (.same errors) printed wrote
  rintro made ⟨diagnosis, finds, noErrors, _⟩
  rw [openValid_of_noErrors finds noErrors] at refused
  cases refused

/-- Without errors everything depends on whether the matrices can be made. -/
theorem printedAndWritten_of_noErrors
    (plain : Folder.isPlainName output)
    {diagnosis : Diagnosis}
    (finds : Finds folder.read source diagnosis)
    (noErrors : diagnosis.diagnostics = []) :
    PrintedAndWritten folder source output dual := by
  have opened := openValid_of_noErrors finds noErrors
  cases success : (Formulation.ofDiagnosis diagnosis).matricesOf dual with
  | error failure =>
      refine .refused _ _ ?_ (.announced .buildingMatrices .writingMatrices failure)
        (fun format => run_of_error ?_) (run_of_error ?_)
      · rintro made ⟨other, otherFinds, _, built⟩
        rw [← finds.unique otherFinds, success] at built
        cases built
      · simp only [attempt, opened, bind, Except.bind, success]
        rfl
      · simp only [attempt, opened, bind, Except.bind, success]
        rfl
  | ok made =>
      have saved : ∃ written, folder.write output (Dump.write made) = .ok written := by
        rw [Folder.write, if_pos plain]
        exact ⟨_, rfl⟩
      obtain ⟨written, saved⟩ := saved
      refine .made made written ⟨diagnosis, finds, noErrors, success⟩
        (fun format => run_of_finish ?_) saved (run_of_save ?_ saved)
      · simp only [attempt, opened, bind, Except.bind, success]
        rfl
      · simp only [attempt, opened, bind, Except.bind, success]
        rfl

/-- Printing and writing come to the same for every source. -/
theorem printedAndWritten
    (plain : Folder.isPlainName output)
    (folder : Folder)
    (source : Source)
    (dual : Bool) :
    PrintedAndWritten folder source output dual := by
  rcases openChecked_cases folder.read source with
    ⟨diagnosis, finds⟩ | ⟨_, activity, failure, refused⟩
  · by_cases noErrors : diagnosis.diagnostics = []
    · exact printedAndWritten_of_noErrors plain finds noErrors
    · exact printedAndWritten_of_error (openValid_of_errors finds noErrors)
  · exact printedAndWritten_of_error (openValid_of_error refused)

end Runs

/-- The lines of a check that tell the size of a problem. -/
def sizeLines (constraintCount variableCount : Nat) : String :=
  s!"  {constraintCount} constraints\n  {variableCount} variables\n"

section Outcomes

variable
  {folder : Folder}
  {source : Source}
  {diagnosis : Diagnosis}
  {dual : Bool}
  {output : String}

/-- A dump that has been written is read as the matrices that it was made of. -/
theorem outcome_read
    {written : Folder}
    {text : String}
    {made : Matrices}
    (saved : folder.write output text = .ok written)
    (readsBack : Dump.read text dual = .ok made)
    (format : Format) :
    (read output dual format).outcome written = .success (print made format) := by
  rw [outcome, run_of_finish]
  rw [attempt, Folder.read_write_self saved, Dump.ofFile, readsBack]
  rfl

/-- The matrices of a problem without errors are dumped so that they can be read. -/
theorem Builds.readsBack
    {made : Matrices}
    (builds : Builds folder.read source dual made)
    (countable : dual → ∀ formulation,
      Formulation.ofSource folder.read source.file source.text source.delimiter =
        .ok formulation → formulation.lines.length ≤ Numeral.maxIndex) :
    Dump.read (Dump.write made) dual = .ok made := by
  obtain ⟨diagnosis, finds, _, success⟩ := builds
  obtain ⟨draft, sound, reached⟩ := finds.sound
  rw [← reached] at success
  have sameLines : draft.lines = diagnosis.lines := congrArg Formulation.lines reached
  have bounded : dual → draft.lines.length ≤ Numeral.maxIndex := by
    intro isDual
    rw [sameLines]
    exact finds.length_le (countable isDual)
  exact (sound.readsBack bounded success).same

/-- The size that a check tells is that of the matrices of the problem. -/
theorem Finds.sizeText_eq
    (finds : Finds folder.read source diagnosis)
    {primal : Matrices}
    (success : (Formulation.ofDiagnosis diagnosis).matrices = .ok primal) :
    ∃ constraintCount variableCount,
      primal.HasSize constraintCount variableCount ∧
        sizeText (.ofDiagnosis diagnosis) = sizeLines constraintCount variableCount := by
  obtain ⟨draft, sound, reached⟩ := finds.sound
  rw [← reached] at success
  obtain ⟨_, constraints, dimensions, _, _, found, counted, _, made⟩ := sound.madeOf success
  refine ⟨constraints.length, dimensions.variableCount, made.hasSize, ?_⟩
  rw [← reached, sizeText, found, ← counted]
  rfl

/-- A check of a problem that has matrices succeeds and tells their size. -/
theorem Builds.outcome_check
    {made : Matrices}
    (builds : Builds folder.read source dual made) :
    ∃ primal constraintCount variableCount,
      Matrices.HasSize primal constraintCount variableCount ∧
        made = (if dual then primal.dual else primal) ∧
        (check source).outcome folder =
          .success (Formulation.report [] ++ "\n" ++ sizeLines constraintCount variableCount) := by
  obtain ⟨diagnosis, finds, noErrors, success⟩ := builds
  obtain ⟨primal, built, isMade⟩ := Formulation.matricesOf_eq_ok_iff.mp success
  obtain ⟨constraintCount, variableCount, size, text⟩ := finds.sizeText_eq built
  refine ⟨primal, constraintCount, variableCount, size, isMade, ?_⟩
  rw [outcome, run_check finds, if_pos noErrors, text, reportLine, noErrors]
  rfl

/-- A check writes no file. -/
theorem leaves_check (folder : Folder) (source : Source) :
    (check source).leaves folder = folder := by
  rcases openChecked_cases folder.read source with
    ⟨diagnosis, finds⟩ | ⟨_, activity, failure, refused⟩
  · rw [leaves, run_check finds]
  · rw [leaves, run_check_of_error refused]

/-- A check succeeds exactly if it finds a problem without errors. -/
theorem code_check_iff (folder : Folder) (source : Source) :
    ((check source).outcome folder).code = 0 ↔
      ∃ diagnosis, Finds folder.read source diagnosis ∧ diagnosis.diagnostics = [] := by
  constructor
  · intro succeeded
    rcases openChecked_cases folder.read source with
      ⟨diagnosis, finds⟩ | ⟨_, activity, failure, refused⟩
    · refine ⟨diagnosis, finds, ?_⟩
      by_contra errors
      rw [outcome, run_check finds, if_neg errors] at succeeded
      cases succeeded
    · rw [outcome, run_check_of_error refused] at succeeded
      cases succeeded
  · rintro ⟨diagnosis, finds, noErrors⟩
    rw [outcome, run_check finds, if_pos noErrors]

/-- Errors are reported by a check, and in place of matrices. -/
theorem Finds.outcomes_of_errors
    (finds : Finds folder.read source diagnosis)
    (errors : diagnosis.diagnostics ≠ [])
    (format : Format) :
    (check source).outcome folder = ⟨1, reportLine diagnosis, ""⟩ ∧
      (matrices source dual format).outcome folder = ⟨1, "", reportLine diagnosis⟩ ∧
      (dump source output dual).outcome folder = ⟨1, "", reportLine diagnosis⟩ := by
  obtain ⟨printed, wrote⟩ := run_of_openValid_error (openValid_of_errors finds errors)
  rw [outcome, outcome, outcome, run_check finds, if_neg errors, printed, wrote,
    sizeText_of_errors errors, String.append_empty]
  exact ⟨rfl, rfl, rfl⟩

/-- A problem that cannot be checked fails every command in the same way. -/
theorem outcomes_of_unopened
    (none : ∀ diagnosis, ¬ Finds folder.read source diagnosis)
    (format : Format) :
    ∃ activity failure,
      (check source).outcome folder = .failed activity failure ∧
        (matrices source dual format).outcome folder = .failed activity failure ∧
        (dump source output dual).outcome folder = .failed activity failure := by
  rcases openChecked_cases folder.read source with
    ⟨diagnosis, finds⟩ | ⟨_, activity, failure, refused⟩
  · exact absurd finds (none diagnosis)
  · obtain ⟨printed, wrote⟩ := run_of_openValid_error (openValid_of_error refused)
    refine ⟨activity, failure, ?_⟩
    rw [outcome, outcome, outcome, run_check_of_error refused, printed, wrote]
    exact ⟨rfl, rfl, rfl⟩

end Outcomes

namespace PrintedAndWritten

variable
  {folder : Folder}
  {source : Source}
  {output : String}
  {dual : Bool}

/-- Printing writes no file. -/
theorem leaves_matrices
    (agrees : PrintedAndWritten folder source output dual)
    (format : Format) :
    (matrices source dual format).leaves folder = folder := by
  cases agrees with
  | refused printing writing none alike printed wrote =>
      rw [leaves, printed]
  | made made written builds printed saved wrote =>
      rw [leaves, printed]

/-- Matrices are printed exactly if there are any. -/
theorem code_matrices_iff
    (agrees : PrintedAndWritten folder source output dual)
    (format : Format) :
    ((matrices source dual format).outcome folder).code = 0 ↔
      ∃ made, Builds folder.read source dual made := by
  cases agrees with
  | refused printing writing none alike printed wrote =>
      rw [outcome, printed, alike.code.1]
      refine iff_of_false (by decide) ?_
      rintro ⟨made, builds⟩
      exact none made builds
  | made made written builds printed saved wrote =>
      rw [outcome, printed]
      exact iff_of_true rfl ⟨made, builds⟩

/-- A dump is written exactly if the matrices are printed. -/
theorem code_dump_iff
    (agrees : PrintedAndWritten folder source output dual)
    (format : Format) :
    ((dump source output dual).outcome folder).code = 0 ↔
      ((matrices source dual format).outcome folder).code = 0 := by
  cases agrees with
  | refused printing writing none alike printed wrote =>
      rw [outcome, outcome, printed, wrote, alike.code.1, alike.code.2]
  | made made written builds printed saved wrote =>
      rw [outcome, outcome, printed, wrote]
      exact .rfl

/-- What has been written is a dump of the matrices that are printed. -/
theorem exists_made
    (agrees : PrintedAndWritten folder source output dual)
    (succeeded : ((dump source output dual).outcome folder).code = 0) :
    ∃ made,
      Builds folder.read source dual made ∧
        (∀ format,
          (matrices source dual format).outcome folder = .success (print made format)) ∧
        folder.write output (Dump.write made) =
          .ok ((dump source output dual).leaves folder) := by
  cases agrees with
  | refused printing writing none alike printed wrote =>
      rw [outcome, wrote, alike.code.2] at succeeded
      cases succeeded
  | made made written builds printed saved wrote =>
      refine ⟨made, builds, fun format => ?_, ?_⟩
      · rw [outcome, printed]
      · rw [leaves, wrote]
        exact saved

/-- Where nothing is written, nothing is printed for the same reason. -/
theorem refusedAlike
    (agrees : PrintedAndWritten folder source output dual)
    (failed : ((dump source output dual).outcome folder).code ≠ 0)
    (format : Format) :
    RefusedAlike ((matrices source dual format).outcome folder)
        ((dump source output dual).outcome folder) ∧
      (dump source output dual).leaves folder = folder := by
  cases agrees with
  | refused printing writing none alike printed wrote =>
      rw [outcome, outcome, leaves, printed, wrote]
      exact ⟨alike, rfl⟩
  | made made written builds printed saved wrote =>
      rw [outcome, wrote] at failed
      exact absurd rfl failed

end PrintedAndWritten

theorem ne_empty_of_isPlainName
    {output : String}
    (plain : Folder.isPlainName output) : output ≠ "" := by
  rintro rfl
  exact absurd plain (by decide)

/-- The commands on the problem that a source states agree with each other. -/
structure Agreement
    (folder : Folder)
    (source : Source)
    (output : String)
    (dual : Bool) : Prop where
  /-- Words that state the source for a check state it for all commands. -/
  spoken (words : List String) :
    parse? ("check" :: words) = some (.check source) →
    Arguments.isOption output = false →
    CommandLines words source output dual
  /-- Only a dump writes a file. -/
  onlyDump (format : Format) :
    (check source).leaves folder = folder ∧
      (matrices source dual format).leaves folder = folder
  /-- A dump is written exactly if the matrices are printed. -/
  together (format : Format) :
    ((dump source output dual).outcome folder).code = 0 ↔
      ((matrices source dual format).outcome folder).code = 0
  /-- The matrices are printed exactly if there are any. -/
  built (format : Format) :
    ((matrices source dual format).outcome folder).code = 0 ↔
      ∃ made, Builds folder.read source dual made
  /-- What is written is what is printed, and all other files stay as they are. -/
  written : ((dump source output dual).outcome folder).code = 0 →
    ((dump source output dual).leaves folder).find? output =
        some (.text ((matrices source dual .dump).outcome folder).output) ∧
      ∀ other, other ≠ output →
        ((dump source output dual).leaves folder).find? other = folder.find? other
  /--
  What is written is read as what is printed. The restrictions of a dual are
  numbered in words, and a machine holds no more lines than its words count.
  -/
  readBack (format : Format) :
    ((dump source output dual).outcome folder).code = 0 →
    (dual → ∀ formulation,
      Formulation.ofSource folder.read source.file source.text source.delimiter =
        .ok formulation → formulation.lines.length ≤ Numeral.maxIndex) →
    (read output dual format).outcome ((dump source output dual).leaves folder) =
      (matrices source dual format).outcome folder
  /-- If nothing is printed, then nothing is written, for the same reason. -/
  refused (format : Format) :
    ((dump source output dual).outcome folder).code ≠ 0 →
    RefusedAlike ((matrices source dual format).outcome folder)
        ((dump source output dual).outcome folder) ∧
      (dump source output dual).leaves folder = folder
  /-- A check succeeds exactly if there is a problem and it has no errors. -/
  clean : ((check source).outcome folder).code = 0 ↔
    ∃ diagnosis, Finds folder.read source diagnosis ∧ diagnosis.diagnostics = []
  /-- The errors that a check reports are why no matrices are printed or written. -/
  reported (diagnosis : Diagnosis) (format : Format) :
    Finds folder.read source diagnosis → diagnosis.diagnostics ≠ [] →
    (check source).outcome folder = ⟨1, reportLine diagnosis, ""⟩ ∧
      (matrices source dual format).outcome folder = ⟨1, "", reportLine diagnosis⟩ ∧
      (dump source output dual).outcome folder = ⟨1, "", reportLine diagnosis⟩
  /-- All commands fail alike if there is no problem to check. -/
  unopened (format : Format) :
    (∀ diagnosis, ¬ Finds folder.read source diagnosis) →
    ∃ activity failure,
      (check source).outcome folder = .failed activity failure ∧
        (matrices source dual format).outcome folder = .failed activity failure ∧
        (dump source output dual).outcome folder = .failed activity failure
  /-- A check tells the size of the matrices that are printed. -/
  sized (format : Format) :
    ((matrices source dual format).outcome folder).code = 0 →
    ∃ primal constraintCount variableCount,
      Matrices.HasSize primal constraintCount variableCount ∧
        (matrices source dual format).outcome folder =
          .success (print (if dual then primal.dual else primal) format) ∧
        (check source).outcome folder =
          .success (Formulation.report [] ++ "\n" ++ sizeLines constraintCount variableCount)

/-- Commands on one problem agree, whatever the problem is. -/
theorem commands_agree
    {output : String}
    (plain : Folder.isPlainName output)
    (folder : Folder)
    (source : Source)
    (dual : Bool) :
    Agreement folder source output dual := by
  have agrees := printedAndWritten plain folder source dual
  exact
    { spoken := fun words accepted isValue =>
        commandLines accepted dual (ne_empty_of_isPlainName plain) isValue
      onlyDump := fun format => ⟨leaves_check folder source, agrees.leaves_matrices format⟩
      together := agrees.code_dump_iff
      built := agrees.code_matrices_iff
      written := fun succeeded => by
        obtain ⟨made, builds, printed, saved⟩ := agrees.exists_made succeeded
        rw [printed]
        exact ⟨Folder.find?_write_self saved, fun other different =>
          Folder.find?_write_of_ne saved different⟩
      readBack := fun format succeeded countable => by
        obtain ⟨made, builds, printed, saved⟩ := agrees.exists_made succeeded
        rw [outcome_read saved (builds.readsBack countable), printed]
      refused := fun format failed => agrees.refusedAlike failed format
      clean := code_check_iff folder source
      reported := fun diagnosis format finds errors => finds.outcomes_of_errors errors format
      unopened := fun format none => outcomes_of_unopened none format
      sized := fun format succeeded => by
        obtain ⟨made, builds, printed, _⟩ :=
          agrees.exists_made ((agrees.code_dump_iff format).mpr succeeded)
        obtain ⟨primal, constraintCount, variableCount, size, rfl, checked⟩ :=
          builds.outcome_check
        exact ⟨primal, constraintCount, variableCount, size, printed format, checked⟩ }

/-- The dual of the problem in a file is written, and read as JSON. -/
theorem commands_agree_dualFile :
    let folder : Folder :=
      ⟨[("p", .text "Max 3x1 - x2\nst x1 + 2x2 <= 4\nx2 = 1\nEnd\n")]⟩
    let source : Source := ⟨some "p", none, "\n"⟩
    let dumped := dump source "q" true
    Agreement folder source "q" true ∧ (dumped.outcome folder).code = 0 ∧
      (read "q" true .json).outcome (dumped.leaves folder) =
        (matrices source true .json).outcome folder := by
  intro folder source dumped
  have agrees : Agreement folder source "q" true := commands_agree (by decide) folder source true
  have succeeds : (dumped.outcome folder).code = 0 := by
    rfl
  have lines :
      Formulation.ofSource folder.read source.file source.text source.delimiter =
        .ok (.ofLines ["Max3x1-x2", "stx1+2x2<=4", "x2=1", "End"]) := by
    rfl
  refine ⟨agrees, succeeds, agrees.readBack .json succeeds fun _ formulation opened => ?_⟩
  rw [lines] at opened
  cases opened
  decide

end LinearProgram.Command
