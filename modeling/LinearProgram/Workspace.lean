import LinearProgram.Dump.File
import LinearProgram.Formulation.Draft

namespace LinearProgram

/-!
# Workspaces

A workspace holds a draft, once a problem has been opened, and a folder of
files. Work goes on in steps, each of which gives an answer or is refused, and
leaves a workspace for the next.
-/

/-- A draft, if a problem has been opened, and the files at hand. -/
structure Workspace where
  draft : Option Draft
  folder : Folder
  deriving Repr, DecidableEq

/-- One step of work. -/
inductive Step where
  /-- Open the problem that a file or a text states. -/
  | load (file text : Option String) (delimiter : String)
  /-- Check the lines of the problem. -/
  | check
  /-- Ask about the problem. -/
  | ask (query : Query)
  /-- Write a dump of the problem, or of its dual, to a file. -/
  | writeDump (file : String) (dual : Bool)
  /-- Read a dump from a file, whether or not a problem has been opened. -/
  | readDump (file : String) (dual : Bool)
  deriving Repr, DecidableEq

/-- Why a step is refused. -/
inductive Refusal where
  /-- No problem has been opened. -/
  | noFormulation
  | failure (failure : Failure)
  deriving Repr, DecidableEq

namespace Workspace

/-- The workspace over some files in which no problem has been opened. -/
def ofFolder (folder : Folder) : Workspace :=
  ⟨none, folder⟩

/-- The formulation that has been reached, if a problem has been opened. -/
def formulation (workspace : Workspace) : Option Formulation :=
  workspace.draft.map Draft.formulation

/-- Open a problem in place of the one before, unless it cannot be read. -/
def load
    (workspace : Workspace)
    (file text : Option String)
    (delimiter : String) : Except Refusal Answer × Workspace :=
  match Formulation.ofSource workspace.folder.read file text delimiter with
  | .ok formulation =>
      (.ok .done, { workspace with draft := some (.ofLines formulation.lines) })
  | .error failure => (.error (.failure failure), workspace)

/-- Work on the draft, which keeps what comes of it. -/
def work
    (workspace : Workspace)
    (act : Draft → Except Failure Answer × Draft) : Except Refusal Answer × Workspace :=
  match workspace.draft with
  | none => (.error .noFormulation, workspace)
  | some draft =>
      let outcome := act draft
      (outcome.1.mapError .failure, { workspace with draft := some outcome.2 })

/-- Write a dump to a file, once its matrices have been made. -/
def writeDump
    (workspace : Workspace)
    (file : String)
    (dual : Bool) : Except Refusal Answer × Workspace :=
  match workspace.draft with
  | none => (.error .noFormulation, workspace)
  | some draft =>
      let outcome := draft.matricesOf dual
      let kept := { workspace with draft := some outcome.2 }
      match outcome.1 with
      | .error failure => (.error (.failure failure), kept)
      | .ok matrices =>
          match workspace.folder.write file (Dump.write matrices) with
          | .error error => (.error (.failure (.file error)), kept)
          | .ok folder => (.ok (.text (Dump.write matrices)), { kept with folder })

/-- Take one step: its answer, or why it is refused, and the workspace it leaves. -/
def step (workspace : Workspace) : Step → Except Refusal Answer × Workspace
  | .load file text delimiter => workspace.load file text delimiter
  | .check => workspace.work fun draft => Prod.map (Except.map .diagnostics) id draft.check
  | .ask query => workspace.work fun draft => draft.answer query
  | .writeDump file dual => workspace.writeDump file dual
  | .readDump file dual =>
      (((workspace.folder.readMatrices file dual).map .matrices).mapError .failure, workspace)

/-- Take steps in order; the answer of each with the workspace it leaves. -/
def run (workspace : Workspace) : List Step → List (Except Refusal Answer × Workspace)
  | [] => []
  | step :: rest =>
      let outcome := workspace.step step
      outcome :: run outcome.2 rest

/-- The workspace that steps leave when they are taken in order. -/
def after (workspace : Workspace) (steps : List Step) : Workspace :=
  steps.foldl (fun current taken => (current.step taken).2) workspace

end Workspace

end LinearProgram
