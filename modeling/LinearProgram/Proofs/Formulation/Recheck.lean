import LinearProgram.Proofs.Formulation.CleanCheck

namespace LinearProgram.Formulation

/-!
# Checks that are made again

A check takes away the terminator that it finds, and with it only lines that no
other error is looked for in. So the next check misses the terminator and finds
the same errors otherwise (`Diagnosed.again`), and so do all checks after it
(`diagnoseAgain_eq`).
-/

/-- The errors that are reported in front of a missing terminator. -/
def Diagnostic.early : List Diagnostic :=
  [.missingDirection, .ambiguousDirection, .missingInitializer]

/-- The errors that are reported behind a missing terminator. -/
def Diagnostic.late : List Diagnostic :=
  [.missingRelation, .missingRightHandSide, .missingSign]

/-- The same errors, with a missing terminator at its place among them. -/
inductive Diagnostic.MissesTerminator : List Diagnostic → List Diagnostic → Prop where
  | already
      {diagnostics : List Diagnostic}
      (reported : .missingTerminator ∈ diagnostics) :
      MissesTerminator diagnostics diagnostics
  | entered
      {before behind : List Diagnostic}
      (early : before.Sublist Diagnostic.early)
      (late : behind.Sublist Diagnostic.late) :
      MissesTerminator (before ++ behind) (before ++ .missingTerminator :: behind)

/--
The outcome of the last of several checks in a row, each of the lines that the
one before it has left, where the given number of checks come before the last.
-/
def diagnoseAgain (lines : List String) : Nat → Except Failure Diagnosis
  | 0 => diagnose lines
  | count + 1 => do
      let before ← diagnoseAgain lines count
      diagnose before.lines

theorem Diagnostic.MissesTerminator.mem
    {diagnostics again : List Diagnostic}
    (misses : MissesTerminator diagnostics again) :
    .missingTerminator ∈ again := by
  cases misses with
  | already reported =>
      exact reported
  | entered early late =>
      simp

/-- The errors of an outline in three parts, the second of which is a missing terminator. -/
theorem Outline.diagnostics_eq (outline : Outline) :
    outline.diagnostics =
      Diagnostic.early.filter outline.shows ++
        ([Diagnostic.missingTerminator].filter outline.shows ++
          Diagnostic.late.filter outline.shows) := by
  rw [← List.filter_append, ← List.filter_append]
  rfl

/-- An outline without a terminator has the errors of one that differs in nothing else. -/
theorem Outline.missesTerminator_diagnostics
    {first again : Outline}
    (missed : again.shows .missingTerminator)
    (alike : ∀ diagnostic, diagnostic ≠ .missingTerminator →
      again.shows diagnostic = first.shows diagnostic) :
    Diagnostic.MissesTerminator first.diagnostics again.diagnostics := by
  have filtered (diagnostics : List Diagnostic)
      (others : .missingTerminator ∉ diagnostics) :
      diagnostics.filter again.shows = diagnostics.filter first.shows :=
    List.filter_congr fun diagnostic member =>
      alike diagnostic (ne_of_mem_of_not_mem member others)
  rw [diagnostics_eq first, diagnostics_eq again, filtered Diagnostic.early (by decide),
    filtered Diagnostic.late (by decide), List.filter_singleton, List.filter_singleton, missed]
  cases reported : first.shows .missingTerminator with
  | true =>
      exact .already (by simp)
  | false =>
      exact .entered List.filter_sublist List.filter_sublist

section Kept

variable {kept : List String}

/--
The lines in front of a terminator show the errors that all lines show, but for
the terminator itself.
-/
theorem shows_of_ended
    (objective : String)
    {ending : String}
    (before : ∀ line ∈ kept, isTerminatorLine (tokenize line) = false)
    (ends : isTerminatorLine (tokenize ending))
    (behind : List String)
    {diagnostic : Diagnostic}
    (other : diagnostic ≠ .missingTerminator) :
    Outline.shows ⟨tokenize objective, kept.map tokenize⟩ diagnostic =
      Outline.shows ⟨tokenize objective, (kept ++ ending :: behind).map tokenize⟩
        diagnostic := by
  have whole := constraints_of_ended objective before ends behind
  have same := constraints_of_endless objective before
  cases diagnostic with
  | missingDirection => rfl
  | ambiguousDirection => rfl
  | missingTerminator => exact absurd rfl other
  | missingInitializer =>
      -- A terminator on the second line was no initializer, so none is lost.
      cases kept with
      | nil =>
          simp [Outline.shows, hasKind_initializer_of_isTerminatorLine ends]
      | cons line others =>
          rfl
  | missingRelation =>
      rw [Outline.shows, Outline.shows, whole, same]
  | missingRightHandSide =>
      rw [Outline.shows, Outline.shows, whole, same]
  | missingSign =>
      rw [Outline.shows, Outline.shows, whole, same]

end Kept

/-- A check of the lines that a check has left keeps them and misses the terminator. -/
theorem Diagnosed.again
    {objective : String}
    {following : List String}
    {first : Diagnosis}
    (diagnosed : Diagnosed objective following first) :
    ∃ again, Diagnostic.MissesTerminator first.diagnostics again ∧
      diagnose first.lines = .ok ⟨again, none, first.lines⟩ := by
  cases diagnosed with
  | @ended kept ending behind before ends =>
      have missing := terminator?_of_endless objective before
      refine ⟨_, ?_, diagnose_of_no_terminator rfl missing⟩
      apply Outline.missesTerminator_diagnostics
      · rw [Outline.shows, missing]
        rfl
      · intro diagnostic other
        exact shows_of_ended objective before ends behind other
  | unended endless =>
      have missing := terminator?_of_endless objective endless
      refine ⟨_, .already ?_, diagnose_of_no_terminator rfl missing⟩
      rw [mem_diagnostics_iff, Outline.shows, missing]
      rfl

/-- Once a check has missed the terminator, all later ones find the same. -/
theorem diagnoseAgain_eq
    {lines : List String}
    {first : Diagnosis}
    {again : List Diagnostic}
    (outcome : diagnose lines = .ok first)
    (second : diagnose first.lines = .ok ⟨again, none, first.lines⟩)
    (count : Nat) :
    diagnoseAgain lines (count + 1) = .ok ⟨again, none, first.lines⟩ := by
  induction count with
  | zero =>
      rw [diagnoseAgain, diagnoseAgain, outcome]
      exact second
  | succ count inductionHypothesis =>
      rw [diagnoseAgain, inductionHypothesis]
      exact second

end LinearProgram.Formulation
