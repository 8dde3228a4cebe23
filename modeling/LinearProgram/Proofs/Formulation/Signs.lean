import LinearProgram.Proofs.Formulation.CleanCheck
import LinearProgram.Proofs.Line.Signs

namespace LinearProgram.Formulation

/-!
# What a check finds out about signs

A check that reports no missing sign has compared counts. Where every sign
belongs to a variable, at most one variable of a line is without a sign; that is
the first one unless the first has a sign. A sign in front of the first
variable, and a sign that belongs to no variable, stand in for the missing sign
of a later one (`missingSign_unreported`).
-/

/-- A missing sign is looked for in all lines that are kept, the objective among them. -/
theorem Diagnosed.missingSign_unreported_iff
    {objective : String}
    {following : List String}
    {diagnosis : Diagnosis}
    (diagnosed : Diagnosed objective following diagnosis) :
    .missingSign ∉ diagnosis.diagnostics ↔
      ∀ line ∈ diagnosis.lines, signsBalance (tokenize line) := by
  cases diagnosed with
  | ended before ends =>
      rw [mem_diagnostics_iff, Outline.shows, constraints_of_ended objective before ends]
      simp
  | unended endless =>
      rw [mem_diagnostics_iff, Outline.shows, constraints_of_endless objective endless]
      simp

/--
A check keeps quiet about missing signs just if each line that it keeps has as
many variables without a sign as signs without a variable, or one more. If it
does, a line in which every sign has a variable has a sign for each variable but
the first, unless the first has a sign and another has none.
-/
theorem missingSign_unreported
    (objective : String)
    (following : List String) :
    ∃ diagnosis, diagnose (objective :: following) = .ok diagnosis ∧
      (.missingSign ∉ diagnosis.diagnostics ↔
        ∀ line ∈ diagnosis.lines,
          idleSigns (tokenize line) ≤ unsignedVariables (tokenize line) ∧
            unsignedVariables (tokenize line) ≤ idleSigns (tokenize line) + 1) ∧
      (.missingSign ∉ diagnosis.diagnostics →
        ∀ line ∈ diagnosis.lines, idleSigns (tokenize line) = 0 →
          (SignsLaterVariables (tokenize line) ↔
            signedBehind (leadingTokens (tokenize line)) = false ∨
              unsignedVariables (tokenize line) = 0)) := by
  obtain ⟨diagnosis, outcome, diagnosed⟩ := diagnose_diagnosed objective following
  have counted : .missingSign ∉ diagnosis.diagnostics ↔
      ∀ line ∈ diagnosis.lines,
        idleSigns (tokenize line) ≤ unsignedVariables (tokenize line) ∧
          unsignedVariables (tokenize line) ≤ idleSigns (tokenize line) + 1 := by
    simpa only [signsBalance_iff] using diagnosed.missingSign_unreported_iff
  refine ⟨diagnosis, outcome, counted, ?_⟩
  intro unreported line kept noIdle
  obtain ⟨_, atMost⟩ := counted.mp unreported line kept
  rw [noIdle] at atMost
  rw [signsLaterVariables_iff]
  cases signedBehind (leadingTokens (tokenize line)) with
  | true =>
      simp
  | false =>
      simpa using atMost

/-- A sign for the second variable, and none for the first. -/
theorem missingSign_unreported_difference :
    ∃ diagnosis,
      diagnose ["max 3x1 - 2x2", "st x1 + 5 x2 <= 4", "end"] = .ok diagnosis ∧
        .missingSign ∉ diagnosis.diagnostics ∧
        ∀ line ∈ diagnosis.lines, SignsLaterVariables (tokenize line) := by
  obtain ⟨diagnosis, outcome, _, signed⟩ :=
    missingSign_unreported "max 3x1 - 2x2" ["st x1 + 5 x2 <= 4", "end"]
  have found : diagnose ["max 3x1 - 2x2", "st x1 + 5 x2 <= 4", "end"] =
      .ok ⟨[], some 2, ["max 3x1 - 2x2", "st x1 + 5 x2 <= 4"]⟩ :=
    rfl
  cases outcome.symm.trans found
  refine ⟨_, outcome, by simp, ?_⟩
  rw [List.forall_mem_cons, List.forall_mem_singleton]
  constructor
  · exact (signed (by simp) _ (by simp) (by decide)).mpr (.inl (by decide))
  · exact (signed (by simp) _ (by simp) (by decide)).mpr (.inl (by decide))

/-- The sign of the first variable stands in for that of the second. -/
theorem not_signsLaterVariables_of_unreported :
    ¬ ∀ (objective : String) (following : List String) (diagnosis : Diagnosis),
      diagnose (objective :: following) = .ok diagnosis →
        .missingSign ∉ diagnosis.diagnostics →
          ∀ line ∈ diagnosis.lines, SignsLaterVariables (tokenize line) := by
  intro promise
  have found : diagnose ["max-x1x2", "stx1<=4", "end"] =
      .ok ⟨[], some 2, ["max-x1x2", "stx1<=4"]⟩ :=
    rfl
  have signed : SignsLaterVariables (tokenize "max-x1x2") :=
    promise _ _ _ found (by simp) _ (by simp)
  rw [signsLaterVariables_iff] at signed
  exact absurd signed (by decide)

end LinearProgram.Formulation
