import LinearProgram.Proofs.Workspace.Files

namespace LinearProgram

/-!
# Steps without a trace

A draft remembers its dimensions once it has been asked for them, and a check
clears what it knows before it may fail. Nobody can tell: a sound draft behaves
as the same draft that does not remember (`Sound.step_unmeasured`). So steps that
are refused, and steps that only look, make no difference to the rest of a session
(`indistinguishable_step`).
-/

namespace Draft

/-- What can be seen of a draft. -/
structure View where
  lines : List String
  diagnostics : List Formulation.Diagnostic
  terminator : Option Nat
  deriving Repr, DecidableEq

def view (draft : Draft) : View :=
  ⟨draft.lines, draft.diagnostics, draft.terminator⟩

/-- The draft that does not remember its dimensions. -/
def unmeasured (draft : Draft) : Draft :=
  { draft with known := none }

variable {draft : Draft}

@[simp] theorem view_unmeasured (draft : Draft) : draft.unmeasured.view = draft.view := rfl

@[simp] theorem formulation_unmeasured (draft : Draft) :
    draft.unmeasured.formulation = draft.formulation := rfl

/-- A check forgets the dimensions before anything else. -/
@[simp] theorem check_unmeasured (draft : Draft) : draft.unmeasured.check = draft.check := rfl

theorem Sound.unmeasured (sound : draft.Sound) : draft.unmeasured.Sound :=
  { sound with known := nofun }

/-- A question leaves nothing behind but what is remembered. -/
theorem Asked.unmeasured_eq
    {after : Draft}
    (asked : Asked draft after) :
    after.unmeasured = draft.unmeasured := by
  cases asked <;> rfl

/-- A check fails only on a draft without lines, in which nothing had been found. -/
theorem Sound.unmeasured_check_of_error
    (sound : draft.Sound)
    {failure : Failure}
    (refused : draft.check.1 = .error failure) :
    draft.check.2.unmeasured = draft.unmeasured := by
  cases lines : draft.lines with
  | cons objective following =>
      obtain ⟨diagnosis, outcome, _⟩ := Formulation.diagnose_diagnosed objective following
      rw [Draft.check, lines, outcome] at refused
      cases refused
  | nil =>
      have nothingFound := (sound.unchecked (sound.unchecked_of_lines_eq_nil lines)).1
      have cleared : draft.check.2 = { draft with diagnostics := [], known := none } := by
        rw [Draft.check, lines]
        rfl
      rw [cleared, Draft.unmeasured, Draft.unmeasured, nothingFound]

end Draft

namespace Workspace

/-- What can be seen of a workspace: its draft from outside, and all of its files. -/
structure View where
  draft : Option Draft.View
  folder : Folder
  deriving Repr, DecidableEq

def view (workspace : Workspace) : View :=
  ⟨workspace.draft.map Draft.view, workspace.folder⟩

/-- What is seen when steps are taken: each answer, with what is left behind it. -/
def seen (workspace : Workspace) (steps : List Step) : List (Except Refusal Answer × View) :=
  (workspace.run steps).map (Prod.map id view)

/-- Nobody can tell two workspaces apart, neither now nor by any steps. -/
structure Indistinguishable (workspace other : Workspace) : Prop where
  view : workspace.view = other.view
  seen (steps : List Step) : workspace.seen steps = other.seen steps

/-- The workspace whose draft does not remember its dimensions. -/
def unmeasured (workspace : Workspace) : Workspace :=
  { workspace with draft := workspace.draft.map Draft.unmeasured }

@[simp] theorem draft_unmeasured (workspace : Workspace) :
    workspace.unmeasured.draft = workspace.draft.map Draft.unmeasured := rfl

@[simp] theorem folder_unmeasured (workspace : Workspace) :
    workspace.unmeasured.folder = workspace.folder := rfl

theorem view_unmeasured (workspace : Workspace) : workspace.unmeasured.view = workspace.view := by
  simp [view, Function.comp_def]

/-- There is nothing more to forget in a workspace that remembers nothing. -/
theorem unmeasured_unmeasured (workspace : Workspace) :
    workspace.unmeasured.unmeasured = workspace.unmeasured := by
  rw [unmeasured, draft_unmeasured, Option.map_map]
  rfl

variable {workspace other : Workspace}

/-- Workspaces differ in what they remember alone if their drafts do. -/
theorem eq_of_unmeasured_eq
    (sameDraft : workspace.draft.map Draft.unmeasured = other.draft.map Draft.unmeasured)
    (sameFolder : workspace.folder = other.folder) :
    workspace.unmeasured = other.unmeasured := by
  rw [unmeasured, unmeasured, sameDraft, sameFolder]

/-- Work that ends alike whether the dimensions are remembered or not leaves alike workspaces. -/
theorem work_unmeasured
    {act : Draft → Except Failure Answer × Draft}
    (alike : ∀ draft ∈ workspace.draft,
      (act draft.unmeasured).1 = (act draft).1 ∧
        (act draft.unmeasured).2.unmeasured = (act draft).2.unmeasured) :
    (workspace.unmeasured.work act).1 = (workspace.work act).1 ∧
      (workspace.unmeasured.work act).2.unmeasured = (workspace.work act).2.unmeasured := by
  cases opened : workspace.draft with
  | none =>
      simp [work, unmeasured, opened]
  | some draft =>
      obtain ⟨sameAnswer, sameDraft⟩ := alike draft opened
      simp [work, unmeasured, opened, sameAnswer, sameDraft]

/-- A dump is written alike whether the dimensions are remembered or not. -/
theorem Sound.writeDump_unmeasured
    (sound : workspace.Sound)
    (file : String)
    (dual : Bool) :
    (workspace.unmeasured.writeDump file dual).1 = (workspace.writeDump file dual).1 ∧
      (workspace.unmeasured.writeDump file dual).2.unmeasured =
        (workspace.writeDump file dual).2.unmeasured := by
  cases opened : workspace.draft with
  | none =>
      simp [writeDump, Workspace.unmeasured, opened]
  | some draft =>
      have draftSound := sound draft opened
      have forgotten := draftSound.asked_dimensions.unmeasured_eq
      have forgottenAgain : draft.unmeasured.dimensions.2.unmeasured = draft.unmeasured :=
        draftSound.unmeasured.asked_dimensions.unmeasured_eq
      simp only [writeDump, draft_unmeasured, folder_unmeasured, opened, Option.map_some,
        draftSound.matricesOf_eq, draftSound.unmeasured.matricesOf_eq,
        Draft.formulation_unmeasured]
      cases draft.formulation.matricesOf dual with
      | error failure =>
          simp [Workspace.unmeasured, forgotten, forgottenAgain]
      | ok matrices =>
          dsimp only
          cases workspace.folder.write file (Dump.write matrices) <;>
            simp [Workspace.unmeasured, forgotten, forgottenAgain]

/-- Writing a dump changes nothing in the draft but what is remembered. -/
theorem Sound.unmeasured_writeDump
    (sound : workspace.Sound)
    (file : String)
    (dual : Bool) :
    (workspace.writeDump file dual).2.draft.map Draft.unmeasured =
      workspace.draft.map Draft.unmeasured := by
  rw [draft_writeDump, Option.map_map]
  refine Option.map_congr fun draft opened => ?_
  have draftSound := sound draft opened
  rw [Function.comp_apply, draftSound.matricesOf_eq]
  exact draftSound.asked_dimensions.unmeasured_eq

/-- A sound workspace takes a step in the same way whether it remembers dimensions or not. -/
theorem Sound.step_unmeasured
    (sound : workspace.Sound)
    (taken : Step) :
    (workspace.unmeasured.step taken).1 = (workspace.step taken).1 ∧
      (workspace.unmeasured.step taken).2.unmeasured = (workspace.step taken).2.unmeasured := by
  cases taken with
  | load file text delimiter =>
      rw [Workspace.step, Workspace.step, load, load, folder_unmeasured]
      cases Formulation.ofSource workspace.folder.read file text delimiter with
      | error failure =>
          exact ⟨rfl, unmeasured_unmeasured workspace⟩
      | ok formulation =>
          exact ⟨rfl, rfl⟩
  | check =>
      exact work_unmeasured fun draft _ => ⟨rfl, rfl⟩
  | ask query =>
      refine work_unmeasured fun draft opened => ?_
      have draftSound := sound draft opened
      rw [draftSound.answer_fst, draftSound.unmeasured.answer_fst,
        (draftSound.asked_answer query).unmeasured_eq,
        (draftSound.unmeasured.asked_answer query).unmeasured_eq]
      exact ⟨rfl, rfl⟩
  | writeDump file dual =>
      exact sound.writeDump_unmeasured file dual
  | readDump file dual =>
      exact ⟨rfl, unmeasured_unmeasured workspace⟩

/-- Sound workspaces that differ in what they remember of dimensions stay so in a step. -/
theorem step_congr
    (sound : workspace.Sound)
    (otherSound : other.Sound)
    (same : workspace.unmeasured = other.unmeasured)
    (taken : Step) :
    (workspace.step taken).1 = (other.step taken).1 ∧
      (workspace.step taken).2.unmeasured = (other.step taken).2.unmeasured := by
  obtain ⟨answer, left⟩ := sound.step_unmeasured taken
  obtain ⟨otherAnswer, otherLeft⟩ := otherSound.step_unmeasured taken
  rw [← answer, ← left, same]
  exact ⟨otherAnswer, otherLeft⟩

/-- What is remembered cannot be seen. -/
theorem view_congr (same : workspace.unmeasured = other.unmeasured) :
    workspace.view = other.view := by
  rw [← view_unmeasured workspace, same, view_unmeasured]

/-- Whatever steps are taken, the answers and what is left are seen to be the same. -/
theorem seen_congr
    (sound : workspace.Sound)
    (otherSound : other.Sound)
    (same : workspace.unmeasured = other.unmeasured)
    (steps : List Step) :
    workspace.seen steps = other.seen steps := by
  induction steps generalizing workspace other with
  | nil =>
      rfl
  | cons taken rest inductionHypothesis =>
      obtain ⟨sameAnswer, sameLeft⟩ := step_congr sound otherSound same taken
      have later := inductionHypothesis (sound.step taken) (otherSound.step taken) sameLeft
      simp only [seen, run, List.map_cons, Prod.map, id_eq] at later ⊢
      rw [sameAnswer, view_congr sameLeft, later]

/-- Nobody can tell two workspaces that differ only in what they remember. -/
theorem indistinguishable_of_unmeasured_eq
    (sound : workspace.Sound)
    (otherSound : other.Sound)
    (same : workspace.unmeasured = other.unmeasured) :
    workspace.Indistinguishable other where
  view := view_congr same
  seen := seen_congr sound otherSound same

end Workspace

/-- Whether a step only looks at the problem or at a file. -/
def Step.looks : Step → Bool
  | .ask _ => true
  | .readDump _ _ => true
  | _ => false

namespace Workspace

variable {workspace : Workspace}

/-- A step that only looks changes nothing but what is remembered. -/
theorem Sound.unmeasured_step_of_looks
    (sound : workspace.Sound)
    {taken : Step}
    (looks : taken.looks) :
    (workspace.step taken).2.unmeasured = workspace.unmeasured := by
  cases taken with
  | ask query =>
      refine eq_of_unmeasured_eq ?_ (folder_work _ _)
      rw [Workspace.step, draft_work, Option.map_map]
      refine Option.map_congr fun draft opened => ?_
      exact ((sound draft opened).asked_answer query).unmeasured_eq
  | readDump file dual =>
      rfl
  | _ =>
      cases looks

/-- So does a step that is refused, since a check is refused only where nothing is known. -/
theorem Sound.unmeasured_step_of_refused
    (sound : workspace.Sound)
    {taken : Step}
    (refused : (workspace.step taken).1.isOk = false) :
    (workspace.step taken).2.unmeasured = workspace.unmeasured := by
  cases taken with
  | load file text delimiter =>
      rw [Workspace.step, load] at refused ⊢
      split at refused
      · cases refused
      · rfl
  | check =>
      rw [Workspace.step, work] at refused ⊢
      cases opened : workspace.draft with
      | none =>
          rfl
      | some draft =>
          rw [opened] at refused
          cases outcome : draft.check.1 with
          | ok diagnostics =>
              dsimp only [Prod.map_fst] at refused
              rw [outcome] at refused
              cases refused
          | error failure =>
              refine eq_of_unmeasured_eq ?_ rfl
              rw [opened]
              exact congrArg some ((sound draft opened).unmeasured_check_of_error outcome)
  | writeDump file dual =>
      rw [Workspace.step] at refused ⊢
      rcases workspace.writeDump_cases file dual with
        ⟨_, sameFolder⟩ | ⟨draft, matrices, folder, _, _, _, outcome⟩
      · exact eq_of_unmeasured_eq (sound.unmeasured_writeDump file dual) sameFolder
      · rw [outcome] at refused
        cases refused
  | ask query =>
      exact sound.unmeasured_step_of_looks rfl
  | readDump file dual =>
      exact sound.unmeasured_step_of_looks rfl

/--
A step that is refused or only looks leaves no trace, in whatever session it is
taken: what can be seen stays as it is, and nobody can tell later that it was
taken. A dump that is written changes the file of that name and nothing else.
-/
theorem indistinguishable_step
    (reachable : workspace.Reachable)
    (taken : Step) :
    ((workspace.step taken).1.isOk = false ∨ taken.looks →
      (workspace.step taken).2.Indistinguishable workspace) ∧
    ∀ file dual answer, taken = .writeDump file dual →
      (workspace.step taken).1 = .ok answer →
      ∃ matrices folder,
        (workspace.step (.ask (.matricesOf dual))).1 = .ok (.matrices matrices) ∧
        answer = .text (Dump.write matrices) ∧
        folder.find? file = some (.text (Dump.write matrices)) ∧
        (∀ other, other ≠ file → folder.find? other = workspace.folder.find? other) ∧
        (workspace.step taken).2.Indistinguishable { workspace with folder } := by
  have sound := reachable.sound
  constructor
  · intro quiet
    refine indistinguishable_of_unmeasured_eq (sound.step taken) sound ?_
    rcases quiet with refused | looks
    · exact sound.unmeasured_step_of_refused refused
    · exact sound.unmeasured_step_of_looks looks
  · rintro file dual answer rfl success
    rcases workspace.writeDump_cases file dual with
      ⟨refused, _⟩ | ⟨draft, matrices, folder, opened, made, wrote, outcome⟩
    · rw [← step, success] at refused
      cases refused
    · have asked := ask_matricesOf opened made
      rw [step, outcome] at success
      cases success
      refine ⟨matrices, folder, asked, rfl, ?_, ?_, ?_⟩
      · exact Folder.find?_write_self wrote
      · intro other different
        exact Folder.find?_write_of_ne wrote different
      · refine indistinguishable_of_unmeasured_eq (sound.step _) sound ?_
        rw [step]
        refine eq_of_unmeasured_eq (sound.unmeasured_writeDump file dual) ?_
        rw [outcome]

/--
Matrices that do not fit are refused, but the dimensions are remembered. A dump
that is written adds a file.
-/
theorem indistinguishable_step_remembered :
    let opened (text : String) := (ofFolder .empty).after [.load none (some text) "|", .check]
    let narrow := opened "max x2 + x1|st x1 <= 4|end"
    let wide := opened "max x2|st x1 - 7x2 <= 04|end"
    let matrices : Matrices := ⟨[[1, -7]], [4], [0, 1], [.le], .max, none⟩
    ((narrow.step (.ask .matrices)).1 = .error (.failure (.variableOutOfRange 2 1)) ∧
      (narrow.step (.ask .matrices)).2 ≠ narrow ∧
      (narrow.step (.ask .matrices)).2.Indistinguishable narrow) ∧
    (wide.step (.writeDump "f" false)).1 = .ok (.text (Dump.write matrices)) ∧
      ∃ folder, folder.find? "f" = some (.text (Dump.write matrices)) ∧
        (∀ other, other ≠ "f" → folder.find? other = none) ∧
        (wide.step (.writeDump "f" false)).2.Indistinguishable { wide with folder } := by
  intro opened narrow wide matrices
  have refused :
      (narrow.step (.ask .matrices)).1 = .error (.failure (.variableOutOfRange 2 1)) := by
    rfl
  have success :
      (wide.step (.writeDump "f" false)).1 = .ok (.text (Dump.write matrices)) := by
    rfl
  have narrowReachable : narrow.Reachable := ⟨.empty, _, rfl⟩
  have wideReachable : wide.Reachable := ⟨.empty, _, rfl⟩
  have quiet := (indistinguishable_step narrowReachable (.ask .matrices)).1 (.inl rfl)
  obtain ⟨made, folder, asked, _, held, others, same⟩ :=
    (indistinguishable_step wideReachable _).2 "f" false _ rfl success
  have isMade : made = matrices := by
    cases asked
    rfl
  rw [isMade] at held
  exact ⟨⟨refused, by decide, quiet⟩, success, folder, held, others, same⟩

end Workspace

end LinearProgram
