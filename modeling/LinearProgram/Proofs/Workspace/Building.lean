import LinearProgram.Proofs.Formulation.Building
import LinearProgram.Proofs.Workspace.Invariant

namespace LinearProgram

/-!
# Matrices after a check without findings

In whatever session a draft is checked, once the check has found no errors the
success of building its matrices depends on the variables and the numbers in its
lines, and on nothing else.
-/

namespace Draft

open Formulation (Buildable)

/-- The matrices of a draft are built exactly if its lines are buildable. -/
structure BuildsExactly (draft : Draft) : Prop where
  success : (∃ matrices, draft.matrices.1 = .ok matrices) ↔
    ∃ width, Buildable draft.lines width
  /-- Every line but the objective is a constraint, and there is one at least. -/
  built (matrices : Matrices) : draft.matrices.1 = .ok matrices →
    ∃ width, Buildable draft.lines width ∧
      matrices.HasSize (draft.lines.length - 1) width ∧
      1 ≤ draft.lines.length - 1 ∧ 1 ≤ width ∧
      (∀ bound ∈ matrices.b, 0 ≤ bound) ∧
      matrices.varConstr = none
  /-- If the matrices are not built, a line has no variable or a number is to blame. -/
  refused (failure : Failure) : draft.matrices.1 = .error failure → failure.Unbuildable

/-- The matrices of a sound draft are those of its lines once a check has found no errors. -/
theorem Sound.matrices_of_clean
    {draft : Draft}
    (sound : draft.Sound)
    (filled : draft.lines ≠ [])
    (checked : draft.checked)
    (noErrors : draft.diagnostics = []) :
    draft.matrices.1 =
      Formulation.dimensionsOf draft.lines >>= Formulation.assemble draft.lines := by
  have valid := requireValid_eq_ok_iff.mpr ⟨filled, checked, noErrors⟩
  rw [sound.matrices_eq, Formulation.matrices, dimensions_formulation valid]
  rfl

end Draft

namespace Workspace

/--
In every session, after a check without findings the numbers and the variables
in the lines of a draft decide whether its matrices can be built.
-/
theorem draft_buildsExactly_of_reachable
    {workspace : Workspace}
    (reachable : workspace.Reachable)
    {draft : Draft}
    (opened : workspace.draft = some draft)
    (filled : draft.lines ≠ [])
    (checked : draft.checked)
    (noErrors : draft.diagnostics = []) :
    draft.BuildsExactly := by
  have sound := reachable.sound draft opened
  have clean := (sound.clean checked noErrors).2
  have matrices := sound.matrices_of_clean filled checked noErrors
  constructor
  · rw [matrices]
    exact Formulation.exists_matrices_iff clean
  · intro built success
    obtain ⟨objective, first, others, lines⟩ := clean.exists_cons
    rw [matrices, lines] at success
    obtain ⟨width, made, buildable⟩ := Formulation.madeOf_of_matrices success
    rw [lines]
    refine ⟨width, buildable, made.hasSize, ?_, buildable.width_pos, ?_, made.primal⟩
    · simp
    · intro bound member
      exact (made.bound_inRange bound member).1
  · rw [matrices]
    exact Formulation.failsOnly_matrices clean

/--
The last variable of a line tells its width, so `x2` in front of `x1` does not
fit, unless another line ends with `x2`.
-/
theorem draft_buildsExactly_of_reachable_width :
    let steps (text : String) : List Step := [.load none (some text) "|", .check]
    let narrow : Draft := ⟨["maxx2+x1", "stx1<=4"], [], some 2, true, none⟩
    let wide : Draft := ⟨["maxx2+x1", "stx1-7x2<=04"], [], some 2, true, none⟩
    (((ofFolder .empty).after (steps "max x2 + x1|st x1 <= 4|end")).draft = some narrow ∧
      narrow.BuildsExactly ∧ ¬ ∃ width, Formulation.Buildable narrow.lines width) ∧
    ((ofFolder .empty).after (steps "max x2 + x1|st x1 - 7x2 <= 04|end")).draft = some wide ∧
      wide.BuildsExactly ∧ ∃ width, Formulation.Buildable wide.lines width := by
  intro steps narrow wide
  have narrowOpened :
      ((ofFolder .empty).after (steps "max x2 + x1|st x1 <= 4|end")).draft = some narrow := by
    rfl
  have wideOpened :
      ((ofFolder .empty).after (steps "max x2 + x1|st x1 - 7x2 <= 04|end")).draft =
        some wide := by
    rfl
  have narrowBuilds := draft_buildsExactly_of_reachable ⟨.empty, _, rfl⟩ narrowOpened
    (by decide) rfl rfl
  have wideBuilds := draft_buildsExactly_of_reachable ⟨.empty, _, rfl⟩ wideOpened
    (by decide) rfl rfl
  refine ⟨⟨narrowOpened, narrowBuilds, ?_⟩, wideOpened, wideBuilds, ?_⟩
  · rw [← narrowBuilds.success]
    rintro ⟨matrices, success⟩
    cases success
  · rw [← wideBuilds.success]
    exact ⟨_, rfl⟩

end Workspace

end LinearProgram
