import LinearProgram.Proofs.Dump.Duals
import LinearProgram.Proofs.Workspace.Building

namespace LinearProgram

/-!
# Dumps in the files of a session

Whatever matrices a session writes to a file can be dumped (`Sound.dumpable`),
and other steps leave the file alone (`find?_after`). So what is read later is
what was written (`readDump_of_writeDump`).
-/

namespace Formulation.MadeOf

variable {matrices : Matrices} {objective : String} {constraints : List String} {width : Nat}

/-- Matrices with a variable have no rows that vanish. -/
theorem representable
    (made : MadeOf matrices objective constraints width)
    (someVariable : 1 ≤ width) :
    matrices.Representable where
  size := by
    have size := made.hasSize
    rwa [← size.boundCount, ← size.coefficientCount] at size
  restrictionCount := by
    rw [made.primal]
    exact nofun
  rowsVisible := by
    refine .inr (List.ne_nil_of_length_pos ?_)
    rwa [made.hasSize.coefficientCount]

/-- Matrices that have been made hold words of 64 bits. -/
theorem fitsWords (made : MadeOf matrices objective constraints width) :
    matrices.FitsWords where
  coefficients := by
    intro row isRow entry isEntry
    obtain ⟨line, _, found⟩ := exists_mem_of_forall₂ made.rows isRow
    exact inRange_of_mem_coefficients found entry isEntry
  bounds := by
    intro bound isBound
    obtain ⟨notNegative, fits⟩ := made.bound_inRange bound isBound
    exact ⟨Int.le_trans (by decide) notNegative, fits⟩
  objective := by
    intro entry isEntry
    exact inRange_of_mem_coefficients made.objectiveRow entry isEntry
  restrictionPositions := by
    rw [made.primal]
    exact nofun

end Formulation.MadeOf

/-- The matrices of a dual are the dual of the matrices. -/
theorem Formulation.matricesOf_eq_ok_iff
    {formulation : Formulation}
    {dual : Bool}
    {matrices : Matrices} :
    formulation.matricesOf dual = .ok matrices ↔
      ∃ primal, formulation.matrices = .ok primal ∧
        matrices = if dual then primal.dual else primal := by
  cases dual with
  | false =>
      simp [matricesOf]
  | true =>
      rw [matricesOf, if_pos rfl, dualMatrices]
      cases formulation.matrices with
      | error failure =>
          simp [Except.map]
      | ok primal =>
          simp [Except.map, eq_comm]

/-- The question about the matrices of a problem or of its dual. -/
def Query.matricesOf (dual : Bool) : Query :=
  if dual then .dualMatrices else .matrices

namespace Draft

variable {draft : Draft}

/-- The matrices of a sound draft are made of all its lines, in the dimensions of the draft. -/
theorem Sound.madeOf
    (sound : draft.Sound)
    {matrices : Matrices}
    (success : draft.formulation.matrices = .ok matrices) :
    ∃ objective constraints dimensions,
      draft.lines = objective :: constraints ∧ constraints ≠ [] ∧
        draft.formulation.dimensions = .ok dimensions ∧
        dimensions.constraintCount = constraints.length ∧ 1 ≤ dimensions.variableCount ∧
        Formulation.MadeOf matrices objective constraints dimensions.variableCount := by
  obtain ⟨dimensions, found, assembled⟩ := bind_eq_ok_iff.mp success
  obtain ⟨valid, measured⟩ := dimensions_formulation_eq_ok_iff.mp found
  obtain ⟨filled, checked, noErrors⟩ := requireValid_eq_ok_iff.mp valid
  obtain ⟨objective, first, others, lines⟩ := (sound.clean checked noErrors).2.exists_cons
  have counted := Formulation.constraintCount_of_dimensionsOf measured
  have someVariable := (Formulation.isGreatest_of_dimensionsOf measured filled).2
  change Formulation.assemble draft.lines dimensions = .ok matrices at assembled
  rw [lines] at assembled counted
  exact ⟨objective, first :: others, dimensions, lines, List.cons_ne_nil _ _, found, counted,
    Nat.one_le_iff_ne_zero.mpr someVariable,
    (Formulation.assemble_eq_ok_iff counted).mp assembled⟩

/-- The matrices of a draft have a constraint and a variable, and no number that is too large. -/
theorem Sound.dumpable
    (sound : draft.Sound)
    {matrices : Matrices}
    (success : draft.formulation.matrices = .ok matrices) :
    matrices.Representable ∧ matrices.FitsWords ∧ matrices.varConstr = none ∧
      matrices.HasSize (draft.lines.length - 1) matrices.c.length ∧
      matrices.b ≠ [] ∧ matrices.c ≠ [] := by
  obtain ⟨objective, constraints, dimensions, lines, someConstraint, _, _, someVariable,
    made⟩ := sound.madeOf success
  have size := made.hasSize
  refine ⟨made.representable someVariable, made.fitsWords, made.primal, ?_, ?_, ?_⟩
  · rw [lines, size.coefficientCount]
    exact size
  · refine List.ne_nil_of_length_pos ?_
    rw [size.boundCount]
    exact List.length_pos_of_ne_nil someConstraint
  · refine List.ne_nil_of_length_pos ?_
    rw [size.coefficientCount]
    exact someVariable

/-- So can those of its dual, whose restrictions are numbered, if there are not too many lines. -/
theorem Sound.matricesOf_dumpable
    (sound : draft.Sound)
    {dual : Bool}
    (countable : dual → draft.lines.length ≤ Numeral.maxIndex)
    {matrices : Matrices}
    (success : draft.formulation.matricesOf dual = .ok matrices) :
    matrices.Representable ∧ matrices.FitsWords ∧ matrices.isDual = dual ∧
      matrices.c ≠ [] := by
  obtain ⟨primal, built, rfl⟩ := Formulation.matricesOf_eq_ok_iff.mp success
  obtain ⟨representable, fits, noRestrictions, size, someConstraint, someVariable⟩ :=
    sound.dumpable built
  cases dual with
  | false =>
      exact ⟨representable, fits, by simp [Matrices.isDual, noRestrictions], someVariable⟩
  | true =>
      refine ⟨representable.dual someConstraint, fits.dual ?_, rfl, someConstraint⟩
      rw [size.relationCount]
      exact Nat.le_trans (Nat.sub_le _ _) (countable rfl)

end Draft

/-- What a dump of a problem, or of its dual, is read as. -/
structure Dump.ReadsBack (text : String) (dual : Bool) (matrices : Matrices) : Prop where
  same : Dump.read text dual = .ok matrices
  /-- The restrictions of a dual are passed over if they are not asked for. -/
  withoutRestrictions : dual = true →
    Dump.read text false = .ok { matrices with varConstr := none }
  /-- A primal problem has no restrictions. -/
  noRestrictions : dual = false →
    Dump.read text true = .error (.shape (.restrictionCount 0 matrices.c.length))

/-- The matrices of a sound draft can be read from their dump. -/
theorem Draft.Sound.readsBack
    {draft : Draft}
    (sound : draft.Sound)
    {dual : Bool}
    (countable : dual → draft.lines.length ≤ Numeral.maxIndex)
    {matrices : Matrices}
    (success : draft.formulation.matricesOf dual = .ok matrices) :
    Dump.ReadsBack (Dump.write matrices) dual matrices := by
  obtain ⟨representable, fits, isDual, someVariable⟩ :=
    sound.matricesOf_dumpable countable success
  constructor
  · rw [← isDual]
    exact Dump.read_write representable fits
  · intro _
    exact Dump.read_write_primal representable fits
  · rintro rfl
    rw [Matrices.isDual, Option.isSome_eq_false_iff, Option.isNone_iff_eq_none] at isDual
    exact Dump.read_write_as_dual representable fits isDual someVariable

namespace Workspace

/-- Whether a step writes a file. -/
def writes (workspace : Workspace) (file : String) : Step → Bool
  | .writeDump other dual =>
      other == file && (workspace.writeDump other dual).1.isOk
  | _ => false

/-- No step of a run writes a file. -/
def Spares (file : String) : Workspace → List Step → Prop
  | _, [] => True
  | workspace, taken :: rest =>
      workspace.writes file taken = false ∧ Spares file (workspace.step taken).2 rest

/-- A dump of the matrices that have been made is written, or the files stay as they are. -/
theorem writeDump_cases
    (workspace : Workspace)
    (file : String)
    (dual : Bool) :
    ((workspace.writeDump file dual).1.isOk = false ∧
      (workspace.writeDump file dual).2.folder = workspace.folder) ∨
    ∃ draft matrices folder, workspace.draft = some draft ∧
      (draft.matricesOf dual).1 = .ok matrices ∧
      workspace.folder.write file (Dump.write matrices) = .ok folder ∧
      workspace.writeDump file dual =
        (.ok (.text (Dump.write matrices)), ⟨some (draft.matricesOf dual).2, folder⟩) := by
  rw [writeDump]
  cases opened : workspace.draft with
  | none =>
      exact .inl ⟨rfl, rfl⟩
  | some draft =>
      dsimp only
      cases made : (draft.matricesOf dual).1 with
      | error failure =>
          exact .inl ⟨rfl, rfl⟩
      | ok matrices =>
          dsimp only
          cases wrote : workspace.folder.write file (Dump.write matrices) with
          | error error =>
              exact .inl ⟨rfl, rfl⟩
          | ok folder =>
              exact .inr ⟨draft, matrices, folder, rfl, made, wrote, rfl⟩

/-- Work on a draft leaves the files alone. -/
theorem folder_work
    (workspace : Workspace)
    (act : Draft → Except Failure Answer × Draft) :
    (workspace.work act).2.folder = workspace.folder := by
  rw [work]
  cases workspace.draft <;> rfl

theorem folder_load
    (workspace : Workspace)
    (file text : Option String)
    (delimiter : String) :
    (workspace.load file text delimiter).2.folder = workspace.folder := by
  rw [load]
  split <;> rfl

/-- A step that does not write a file leaves it as it is. -/
theorem find?_step
    {workspace : Workspace}
    {file : String}
    {taken : Step}
    (spared : workspace.writes file taken = false) :
    (workspace.step taken).2.folder.find? file = workspace.folder.find? file := by
  cases taken with
  | load source text delimiter =>
      rw [step, folder_load]
  | check =>
      rw [step, folder_work]
  | ask query =>
      rw [step, folder_work]
  | writeDump other dual =>
      rcases workspace.writeDump_cases other dual with
        ⟨_, unchanged⟩ | ⟨draft, matrices, folder, _, _, wrote, outcome⟩
      · rw [step, unchanged]
      · have different : file ≠ other := by
          rintro rfl
          rw [writes, outcome, beq_self_eq_true] at spared
          cases spared
        rw [step, outcome]
        exact Folder.find?_write_of_ne wrote different
  | readDump source dual =>
      rfl

/-- Steps that do not write a file leave it as it is. -/
theorem find?_after
    {workspace : Workspace}
    {file : String}
    {steps : List Step}
    (spared : Spares file workspace steps) :
    (workspace.after steps).folder.find? file = workspace.folder.find? file := by
  induction steps generalizing workspace with
  | nil =>
      rfl
  | cons taken rest inductionHypothesis =>
      rw [← find?_step spared.1]
      exact inductionHypothesis spared.2

/-- A file that no step writes to is read as before. -/
theorem read_after
    {workspace : Workspace}
    {file : String}
    {steps : List Step}
    (spared : Spares file workspace steps) :
    (workspace.after steps).folder.read file = workspace.folder.read file := by
  rw [Folder.read, find?_after spared, Folder.read]

theorem ask_matricesOf
    {workspace : Workspace}
    {draft : Draft}
    (opened : workspace.draft = some draft)
    {dual : Bool}
    {matrices : Matrices}
    (made : (draft.matricesOf dual).1 = .ok matrices) :
    (workspace.step (.ask (.matricesOf dual))).1 = .ok (.matrices matrices) := by
  rw [step, work, opened]
  cases dual with
  | true =>
      change ((draft.dualMatrices.1.map Answer.matrices).mapError Refusal.failure) = _
      rw [show draft.dualMatrices.1 = .ok matrices from made]
      rfl
  | false =>
      change ((draft.matrices.1.map Answer.matrices).mapError Refusal.failure) = _
      rw [show draft.matrices.1 = .ok matrices from made]
      rfl

/-- A dump is read from the text of its file, whatever has been opened. -/
theorem readDump_of_read
    {workspace : Workspace}
    {file text : String}
    (held : workspace.folder.read file = .ok text)
    (dual : Bool) :
    (workspace.step (.readDump file dual)).1 =
      match Dump.read text dual with
      | .ok matrices => .ok (.matrices matrices)
      | .error error => .error (.failure (.dump error)) := by
  rw [Workspace.step, Folder.readMatrices, held, Dump.ofFile]
  cases Dump.read text dual <;> rfl

/--
A file to which the matrices of a problem or of its dual have been written holds
them until it is written again. The restrictions of a dual need not be read;
those of a primal problem cannot be. The restrictions are numbered in words, and
a machine holds no more lines than its words count (`countable`).
-/
theorem readDump_of_writeDump
    {workspace written : Workspace}
    (reachable : workspace.Reachable)
    {file : String}
    {dual : Bool}
    (countable : dual →
      ∀ draft ∈ workspace.draft, draft.lines.length ≤ Numeral.maxIndex)
    {answer : Answer}
    (success : workspace.step (.writeDump file dual) = (.ok answer, written))
    {later : List Step}
    (spared : Spares file written later) :
    ∃ matrices,
      (workspace.step (.ask (.matricesOf dual))).1 = .ok (.matrices matrices) ∧
      ((written.after later).step (.readDump file dual)).1 = .ok (.matrices matrices) ∧
      (dual = true →
        ((written.after later).step (.readDump file false)).1 =
          .ok (.matrices { matrices with varConstr := none })) ∧
      (dual = false →
        ∃ error, ((written.after later).step (.readDump file true)).1 =
          .error (.failure (.dump (.shape error)))) := by
  rcases workspace.writeDump_cases file dual with
    ⟨refused, _⟩ | ⟨draft, matrices, folder, opened, made, wrote, outcome⟩
  · rw [← step, success] at refused
    cases refused
  · rw [step, outcome] at success
    cases success
    have sound := reachable.sound draft opened
    have asked := ask_matricesOf opened made
    rw [sound.matricesOf_eq] at made
    have readsBack := sound.readsBack (fun isDual => countable isDual draft opened) made
    have held := (read_after spared).trans (Folder.read_write_self wrote)
    refine ⟨matrices, asked, ?_, ?_, ?_⟩
    · rw [readDump_of_read held, readsBack.same]
    · intro isDual
      rw [readDump_of_read held, readsBack.withoutRestrictions isDual]
    · intro isPrimal
      exact ⟨_, by rw [readDump_of_read held, readsBack.noRestrictions isPrimal]⟩

/--
The dual of a problem is written, and then another problem is opened. Its dual
does not take the place of the first, since it has not been checked.
-/
theorem readDump_of_writeDump_anotherProblem :
    let workspace := (ofFolder .empty).after
      [.load none (some "Max 3x1 - x2|st x1 + 2x2 <= 4|x2 = 1|End") "|", .check]
    let dual : Matrices :=
      ⟨[[1, 0], [2, 1]], [3, -1], [4, 1], [.ge, .ge], .min, some [.nonNegative, .free]⟩
    let written := (workspace.step (.writeDump "f" true)).2
    let later : List Step :=
      [.load none (some "min x1|st x1 >= 2|end") "|", .writeDump "f" true, .check,
        .writeDump "g" false]
    (workspace.step (.ask .dualMatrices)).1 = .ok (.matrices dual) ∧
      Spares "f" written later ∧
      ((written.after later).step (.readDump "f" true)).1 = .ok (.matrices dual) ∧
      ((written.after later).step (.readDump "f" false)).1 =
        .ok (.matrices { dual with varConstr := none }) := by
  intro workspace dual written later
  have asked : (workspace.step (.ask .dualMatrices)).1 = .ok (.matrices dual) := by
    rfl
  have success : workspace.step (.writeDump "f" true) =
      (.ok (.text (Dump.write dual)), written) := by
    rfl
  have countable : ∀ draft ∈ workspace.draft, draft.lines.length ≤ Numeral.maxIndex := by
    intro draft opened
    cases opened
    decide
  have spared : Spares "f" written later := by
    refine ⟨?_, ?_, ?_, ?_, trivial⟩ <;> rfl
  obtain ⟨matrices, isAnswer, same, primal, _⟩ :=
    readDump_of_writeDump ⟨.empty, _, rfl⟩ (fun _ => countable) success spared
  rw [show Query.matricesOf true = .dualMatrices from rfl, asked] at isAnswer
  cases isAnswer
  exact ⟨asked, spared, same, primal rfl⟩

end Workspace

end LinearProgram
