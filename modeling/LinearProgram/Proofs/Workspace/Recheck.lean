import LinearProgram.Proofs.Formulation.Recheck
import LinearProgram.Proofs.Workspace.Traces

namespace LinearProgram

/-!
# Drafts that are checked more than once

As long as no other problem is opened, only the checks of a draft make a
difference to what can be seen of it (`Sound.unmeasured_after`). After the second
check the draft misses its terminator, which no step brings back, so nothing
that has to be measured is told any more (`check_again`).
-/

namespace Draft

open Formulation (Diagnostic Diagnosis)

/-- The draft that a number of checks leave. -/
def checkedTimes (draft : Draft) : Nat → Draft
  | 0 => draft
  | count + 1 => draft.check.2.checkedTimes count

variable {draft other : Draft}

/-- Checks forget the dimensions before anything else. -/
theorem checkedTimes_congr
    (same : draft.unmeasured = other.unmeasured)
    (count : Nat) :
    (draft.checkedTimes count).unmeasured = (other.checkedTimes count).unmeasured := by
  cases count with
  | zero =>
      exact same
  | succ count =>
      rw [checkedTimes, checkedTimes, ← check_unmeasured draft, same, check_unmeasured]

/-- A second check that finds no terminator settles the draft. -/
theorem checkedTimes_ofCheck
    {lines : List String}
    {again : List Diagnostic}
    (outcome : Formulation.diagnose lines = .ok ⟨again, none, lines⟩)
    (diagnostics : List Diagnostic)
    (terminator : Option Nat)
    (count : Nat) :
    (ofCheck lines diagnostics terminator).checkedTimes (count + 1) =
      ofCheck lines again terminator := by
  have settled (found : List Diagnostic) :
      (ofCheck lines found terminator).check.2 = ofCheck lines again terminator :=
    @check_of_diagnose (ofCheck lines found terminator) _ outcome
  rw [checkedTimes, settled]
  induction count with
  | zero =>
      rfl
  | succ count inductionHypothesis =>
      rw [checkedTimes, settled]
      exact inductionHypothesis

/-- The first check leaves what its diagnosis says. -/
theorem ofLines_checkedTimes_one
    {lines : List String}
    {first : Diagnosis}
    (outcome : Formulation.diagnose lines = .ok first) :
    (ofLines lines).checkedTimes 1 =
      ofCheck first.lines first.diagnostics first.terminator := by
  rw [checkedTimes, checkedTimes, check_of_diagnose outcome]
  cases first.terminator <;> rfl

/-- All later checks leave what the second does. -/
theorem ofLines_checkedTimes
    {lines : List String}
    {first : Diagnosis}
    {again : List Diagnostic}
    (outcome : Formulation.diagnose lines = .ok first)
    (second : Formulation.diagnose first.lines = .ok ⟨again, none, first.lines⟩)
    (count : Nat) :
    (ofLines lines).checkedTimes (count + 2) =
      ofCheck first.lines again first.terminator := by
  have once := ofLines_checkedTimes_one outcome
  rw [checkedTimes, checkedTimes] at once
  rw [checkedTimes, once]
  exact checkedTimes_ofCheck second _ _ count

/-- A draft with errors has no dimensions and no matrices. -/
theorem Sound.refuses_of_diagnostics
    (sound : draft.Sound)
    (errors : draft.diagnostics ≠ [])
    {query : Query}
    (measures : query.measures) :
    (draft.answer query).1.isOk = false := by
  rw [sound.answer_fst]
  cases outcome : draft.formulation.answer query with
  | error failure =>
      rfl
  | ok answer =>
      obtain ⟨dimensions, found⟩ := exists_dimensions_of_answer measures outcome
      obtain ⟨valid, _⟩ := dimensions_formulation_eq_ok_iff.mp found
      exact absurd (requireValid_eq_ok_iff.mp valid).2.2 errors

end Draft

namespace Workspace

/-- Whether a step opens a problem. -/
def opens (workspace : Workspace) : Step → Bool
  | .load file text delimiter => (workspace.load file text delimiter).1.isOk
  | _ => false

/-- No step of a run opens a problem. -/
def OpensNone : Workspace → List Step → Prop
  | _, [] => True
  | workspace, taken :: rest =>
      workspace.opens taken = false ∧ OpensNone (workspace.step taken).2 rest

/-- Nothing that has to be measured is told of the draft. -/
structure Spent (workspace : Workspace) : Prop where
  asks (query : Query) : query.measures → (workspace.step (.ask query)).1.isOk = false
  writes (file : String) (dual : Bool) :
    (workspace.step (.writeDump file dual)).1.isOk = false

variable {workspace : Workspace} {draft : Draft}

/-- Of the steps that open nothing, only a check changes what can be seen of a draft. -/
theorem Sound.unmeasured_step
    (sound : workspace.Sound)
    (opened : workspace.draft = some draft)
    {taken : Step}
    (opensNone : workspace.opens taken = false) :
    ∃ left, (workspace.step taken).2.draft = some left ∧
      left.unmeasured =
        (if taken == .check then draft.check.2 else draft).unmeasured := by
  have quiet (kept : (workspace.step taken).2.unmeasured = workspace.unmeasured) :
      ∃ left, (workspace.step taken).2.draft = some left ∧
        left.unmeasured = draft.unmeasured := by
    have drafts := congrArg Workspace.draft kept
    rw [draft_unmeasured, draft_unmeasured, opened] at drafts
    exact Option.map_eq_some_iff.mp drafts
  cases taken with
  | load file text delimiter =>
      exact quiet (sound.unmeasured_step_of_refused opensNone)
  | check =>
      refine ⟨draft.check.2, ?_, rfl⟩
      rw [Workspace.step, draft_work, opened]
      rfl
  | ask query =>
      exact quiet (sound.unmeasured_step_of_looks rfl)
  | writeDump file dual =>
      have drafts := sound.unmeasured_writeDump file dual
      rw [opened] at drafts
      exact Option.map_eq_some_iff.mp drafts
  | readDump file dual =>
      exact quiet (sound.unmeasured_step_of_looks rfl)

/-- As long as nothing is opened, what can be seen of a draft depends on the checks alone. -/
theorem Sound.unmeasured_after
    (sound : workspace.Sound)
    (opened : workspace.draft = some draft)
    {steps : List Step}
    (opensNone : workspace.OpensNone steps) :
    ∃ left, (workspace.after steps).draft = some left ∧
      left.unmeasured = (draft.checkedTimes (steps.count .check)).unmeasured := by
  induction steps generalizing workspace draft with
  | nil =>
      exact ⟨draft, opened, rfl⟩
  | cons taken rest inductionHypothesis =>
      obtain ⟨next, openedNext, sameNext⟩ := sound.unmeasured_step opened opensNone.1
      obtain ⟨left, openedLeft, sameLeft⟩ :=
        inductionHypothesis (sound.step taken) openedNext opensNone.2
      refine ⟨left, openedLeft, sameLeft.trans ?_⟩
      rw [Draft.checkedTimes_congr sameNext, List.count_cons]
      split <;> rfl

/-- No dump is written of a draft whose matrices are not told. -/
theorem Sound.spent
    (sound : workspace.Sound)
    (opened : workspace.draft = some draft)
    (errors : draft.diagnostics ≠ []) :
    workspace.Spent := by
  have draftSound := sound draft opened
  have asks (query : Query) (measures : query.measures) :
      (workspace.step (.ask query)).1.isOk = false := by
    have refused := draftSound.refuses_of_diagnostics errors measures
    rw [Workspace.step, work, opened]
    cases outcome : (draft.answer query).1 with
    | error failure =>
        dsimp only
        rw [outcome]
        rfl
    | ok answer =>
        rw [outcome] at refused
        cases refused
  refine ⟨asks, ?_⟩
  intro file dual
  rcases workspace.writeDump_cases file dual with
    ⟨refused, _⟩ | ⟨other, matrices, folder, openedOther, made, _, _⟩
  · exact refused
  · have told := ask_matricesOf openedOther made
    have refused := asks (.matricesOf dual) (by cases dual <;> rfl)
    rw [told] at refused
    cases refused

/--
A check that is made again keeps the lines, misses the terminator and finds the
same errors otherwise, however often it is made. So a draft that has been checked
twice since it was opened is spent, whatever other steps are taken, while the
place of the terminator stays that of the first check.
-/
theorem check_again (objective : String) (following : List String) :
    ∃ first again,
      Formulation.diagnose (objective :: following) = .ok first ∧
      Formulation.Diagnostic.MissesTerminator first.diagnostics again ∧
      (∀ count, Formulation.diagnoseAgain (objective :: following) (count + 1) =
        .ok ⟨again, none, first.lines⟩) ∧
      ∀ (workspace : Workspace) (steps : List Step), workspace.Reachable →
        workspace.draft = some (.ofLines (objective :: following)) →
        workspace.OpensNone steps →
        ∃ draft, (workspace.after steps).draft = some draft ∧
          (steps.count .check = 1 →
            draft.view = ⟨first.lines, first.diagnostics, first.terminator⟩) ∧
          (2 ≤ steps.count .check →
            draft.view = ⟨first.lines, again, first.terminator⟩ ∧
              (workspace.after steps).Spent) := by
  obtain ⟨first, outcome, diagnosed⟩ := Formulation.diagnose_diagnosed objective following
  obtain ⟨again, misses, second⟩ := diagnosed.again
  refine ⟨first, again, outcome, misses, Formulation.diagnoseAgain_eq outcome second, ?_⟩
  intro workspace steps reachable opened opensNone
  obtain ⟨draft, openedLeft, same⟩ := reachable.sound.unmeasured_after opened opensNone
  have seen := congrArg Draft.view same
  rw [Draft.view_unmeasured, Draft.view_unmeasured] at seen
  refine ⟨draft, openedLeft, ?_, ?_⟩
  · intro once
    rw [seen, once, Draft.ofLines_checkedTimes_one outcome]
    rfl
  · intro twice
    obtain ⟨count, isCount⟩ := Nat.exists_eq_add_of_le' twice
    rw [isCount, Draft.ofLines_checkedTimes outcome second] at seen
    refine ⟨seen, (reachable.sound.after steps).spent openedLeft ?_⟩
    have diagnostics : draft.diagnostics = again := congrArg Draft.View.diagnostics seen
    rw [diagnostics]
    exact List.ne_nil_of_mem misses.mem

/--
A problem with a missing sign, whose second line is cut off by the terminator:
the matrices of neither are told after two checks, with another source refused
in between.
-/
theorem check_again_refusedSource :
    let opened (text : String) := (ofFolder .empty).after [.load none (some text) "|"]
    let steps : List Step := [.check, .ask .matrices, .load none none "|", .check]
    let clean := opened "Max 3x1|s.t. x1 <= 4|End|x2"
    let cut := opened "Max 3x1 x2|End|s.t. x1 <= 4"
    (clean.OpensNone steps ∧ ((clean.step .check).2.step (.ask .matrices)).1.isOk ∧
      ((clean.after steps).draft.map Draft.view =
        some ⟨["Max3x1", "s.t.x1<=4"], [.missingTerminator], some 2⟩) ∧
      (clean.after steps).Spent) ∧
    cut.OpensNone steps ∧
      ((cut.after steps).draft.map Draft.view =
        some ⟨["Max3x1x2"], [.missingInitializer, .missingTerminator, .missingSign], some 1⟩) ∧
      (cut.after steps).Spent := by
  intro opened steps clean cut
  have cleanOpens : clean.OpensNone steps := ⟨rfl, rfl, rfl, rfl, trivial⟩
  have cutOpens : cut.OpensNone steps := ⟨rfl, rfl, rfl, rfl, trivial⟩
  obtain ⟨_, _, _, _, _, cleanSessions⟩ :=
    check_again "Max3x1" ["s.t.x1<=4", "End", "x2"]
  obtain ⟨_, _, _, _, _, cutSessions⟩ :=
    check_again "Max3x1x2" ["End", "s.t.x1<=4"]
  obtain ⟨_, _, _, cleanSpent⟩ :=
    cleanSessions clean steps ⟨.empty, _, rfl⟩ rfl cleanOpens
  obtain ⟨_, _, _, cutSpent⟩ :=
    cutSessions cut steps ⟨.empty, _, rfl⟩ rfl cutOpens
  exact ⟨⟨cleanOpens, rfl, rfl, (cleanSpent (Nat.le_refl 2)).2⟩,
    cutOpens, rfl, (cutSpent (Nat.le_refl 2)).2⟩

end Workspace

end LinearProgram
