import LinearProgram.Proofs.Formulation.Diagnosis

namespace LinearProgram.Formulation

/-!
# Checks without findings

A check keeps the lines in front of the first terminator, or all of them if
there is none (`diagnose_diagnosed`). When it finds no errors, the lines that
it keeps are an objective with a direction and at least one constraint, and
every constraint has a relation and a right-hand side (`Diagnosed.clean`).
-/

/-- What a check of an objective and the lines behind it comes to. -/
inductive Diagnosed (objective : String) : List String → Diagnosis → Prop where
  /-- The lines in front of the first terminator are kept. -/
  | ended
      {kept : List String}
      {ending : String}
      {behind : List String}
      (before : ∀ line ∈ kept, isTerminatorLine (tokenize line) = false)
      (ends : isTerminatorLine (tokenize ending)) :
      Diagnosed objective (kept ++ ending :: behind)
        ⟨Outline.diagnostics
            ⟨tokenize objective, (kept ++ ending :: behind).map tokenize⟩,
          some (kept.length + 1), objective :: kept⟩
  /-- All lines are kept if there is no terminator. -/
  | unended
      {following : List String}
      (endless : ∀ line ∈ following, isTerminatorLine (tokenize line) = false) :
      Diagnosed objective following
        ⟨Outline.diagnostics ⟨tokenize objective, following.map tokenize⟩, none,
          objective :: following⟩

/-- Lines in which a check has found no errors. -/
structure Clean (lines : List String) : Prop where
  /-- There is an objective, and a constraint behind it. -/
  someConstraint : 2 ≤ lines.length
  direction : ∀ line ∈ lines.head?, (direction? (tokenize line)).isSome
  relation : ∀ line ∈ lines.tail, (relation? (tokenize line)).isSome
  rightHandSide : ∀ line ∈ lines.tail, (rightHandSide? (tokenize line)).isSome

/-- The first terminator divides the lines into those before it and those behind it. -/
theorem terminator?_cases
    {objective : String}
    {following : List String}
    {count : Nat}
    (found : Outline.terminator? ⟨tokenize objective, following.map tokenize⟩ =
      some count) :
    ∃ kept ending behind,
      following = kept ++ ending :: behind ∧ kept.length = count ∧
      (∀ line ∈ kept, isTerminatorLine (tokenize line) = false) ∧
      isTerminatorLine (tokenize ending) := by
  rw [Outline.terminator?, List.findIdx?_map,
    List.findIdx?_eq_some_iff_getElem] at found
  obtain ⟨inBounds, ends, least⟩ := found
  refine ⟨following.take count, following[count], following.drop (count + 1), ?_, ?_, ?_,
    ends⟩
  · rw [← List.drop_eq_getElem_cons inBounds, List.take_append_drop]
  · rw [List.length_take_of_le (Nat.le_of_lt inBounds)]
  · intro line member
    obtain ⟨place, inTaken, rfl⟩ := List.mem_iff_getElem.mp member
    rw [List.length_take, Nat.lt_min] at inTaken
    rw [List.getElem_take]
    simpa using least place inTaken.1

/-- The outcome of a check, whatever lines are behind the objective. -/
theorem diagnose_diagnosed
    (objective : String)
    (following : List String) :
    ∃ diagnosis,
      diagnose (objective :: following) = .ok diagnosis ∧
        Diagnosed objective following diagnosis := by
  cases found : Outline.terminator? ⟨tokenize objective, following.map tokenize⟩ with
  | some count =>
      obtain ⟨kept, ending, behind, rfl, rfl, before, ends⟩ := terminator?_cases found
      refine ⟨_, diagnose_of_terminator rfl found, ?_⟩
      rw [List.take_left]
      exact .ended before ends
  | none =>
      refine ⟨_, diagnose_of_no_terminator rfl found, .unended ?_⟩
      rw [Outline.terminator?, List.findIdx?_map, List.findIdx?_eq_none_iff] at found
      exact found

/-- The first terminator is found behind the lines that are none. -/
theorem terminator?_of_ended
    (objective : String)
    {kept : List String}
    {ending : String}
    (before : ∀ line ∈ kept, isTerminatorLine (tokenize line) = false)
    (ends : isTerminatorLine (tokenize ending))
    (behind : List String) :
    Outline.terminator? ⟨tokenize objective, (kept ++ ending :: behind).map tokenize⟩ =
      some kept.length := by
  have noneBefore : (kept.map tokenize).findIdx? isTerminatorLine = none := by
    rw [List.findIdx?_map, List.findIdx?_eq_none_iff]
    exact before
  rw [Outline.terminator?, List.map_append, List.findIdx?_append, noneBefore,
    List.map_cons, List.findIdx?_cons, if_pos ends]
  simp

/-- The constraints are the lines in front of the first terminator. -/
theorem constraints_of_ended
    (objective : String)
    {kept : List String}
    {ending : String}
    (before : ∀ line ∈ kept, isTerminatorLine (tokenize line) = false)
    (ends : isTerminatorLine (tokenize ending))
    (behind : List String) :
    Outline.constraints ⟨tokenize objective, (kept ++ ending :: behind).map tokenize⟩ =
      kept.map tokenize := by
  rw [Outline.constraints, terminator?_of_ended objective before ends behind]
  simp

theorem terminator?_of_endless
    (objective : String)
    {following : List String}
    (endless : ∀ line ∈ following, isTerminatorLine (tokenize line) = false) :
    Outline.terminator? ⟨tokenize objective, following.map tokenize⟩ = none := by
  rw [Outline.terminator?, List.findIdx?_map, List.findIdx?_eq_none_iff]
  exact endless

/-- Without a terminator all lines behind the objective are constraints. -/
theorem constraints_of_endless
    (objective : String)
    {following : List String}
    (endless : ∀ line ∈ following, isTerminatorLine (tokenize line) = false) :
    Outline.constraints ⟨tokenize objective, following.map tokenize⟩ =
      following.map tokenize := by
  rw [Outline.constraints, terminator?_of_endless objective endless]

/-- A terminator does not introduce the constraints. -/
theorem hasKind_initializer_of_isTerminatorLine
    {tokens : List Token}
    (ends : isTerminatorLine tokens) :
    hasKind .initializer tokens = false := by
  have kinds := beq_iff_eq.mp ends
  rw [hasKind, List.any_eq_false]
  intro token member isInitializer
  have inKinds : TokenKind.initializer ∈ tokens.map Token.kind :=
    List.mem_map.mpr ⟨token, member, beq_iff_eq.mp isInitializer⟩
  rw [kinds] at inKinds
  exact absurd inKinds (by decide)

namespace Diagnosed

variable {objective : String} {following : List String} {diagnosis : Diagnosis}

/-- The objective is kept, and lines of those behind it. -/
theorem lines_eq
    (diagnosed : Diagnosed objective following diagnosis) :
    ∃ kept, diagnosis.lines = objective :: kept ∧ kept <+: following := by
  cases diagnosed with
  | ended before ends =>
      exact ⟨_, rfl, List.prefix_append _ _⟩
  | unended endless =>
      exact ⟨_, rfl, List.prefix_rfl⟩

/-- A terminator that has been found stood directly behind the lines that are kept. -/
theorem cut
    (diagnosed : Diagnosed objective following diagnosis)
    {index : Nat}
    (found : diagnosis.terminator = some index) :
    diagnosis.lines.length = index := by
  cases diagnosed with
  | ended before ends =>
      cases found
      rfl
  | unended endless =>
      cases found

/-- All lines are kept if no terminator has been found. -/
theorem whole
    (diagnosed : Diagnosed objective following diagnosis)
    (missing : diagnosis.terminator = none) :
    diagnosis.lines = objective :: following := by
  cases diagnosed with
  | ended before ends =>
      cases missing
  | unended endless =>
      rfl

/-- No line that is kept behind the objective is a terminator. -/
theorem noTerminator
    (diagnosed : Diagnosed objective following diagnosis) :
    ∀ line ∈ diagnosis.lines.tail, isTerminatorLine (tokenize line) = false := by
  cases diagnosed with
  | ended before ends =>
      exact before
  | unended endless =>
      exact endless

/-- The diagnostics come in their order. -/
theorem order
    (diagnosed : Diagnosed objective following diagnosis) :
    diagnosis.diagnostics.Sublist Diagnostic.all := by
  cases diagnosed with
  | ended before ends =>
      exact diagnostics_sublist _
  | unended endless =>
      exact diagnostics_sublist _

/-- A missing direction is not ambiguous. -/
theorem oneDirection
    (diagnosed : Diagnosed objective following diagnosis) :
    ¬ (.missingDirection ∈ diagnosis.diagnostics ∧
      .ambiguousDirection ∈ diagnosis.diagnostics) := by
  have exclusive (outline : Outline) :
      ¬ (.missingDirection ∈ outline.diagnostics ∧
        .ambiguousDirection ∈ outline.diagnostics) := by
    rw [mem_diagnostics_iff, mem_diagnostics_iff]
    simp only [Outline.shows, Bool.and_eq_true, Bool.not_eq_true']
    rintro ⟨missing, ambiguous⟩
    rw [missing.1] at ambiguous
    cases ambiguous.1
  cases diagnosed with
  | ended before ends =>
      exact exclusive _
  | unended endless =>
      exact exclusive _

end Diagnosed

theorem shows_of_diagnostics_eq_nil
    {outline : Outline}
    (noErrors : outline.diagnostics = [])
    (diagnostic : Diagnostic) :
    outline.shows diagnostic = false := by
  rw [← Bool.not_eq_true, ← mem_diagnostics_iff, noErrors]
  exact List.not_mem_nil

/-- A check without findings has cut clean lines at the terminator. -/
theorem Diagnosed.clean
    {objective : String}
    {following : List String}
    {diagnosis : Diagnosis}
    (diagnosed : Diagnosed objective following diagnosis)
    (noErrors : diagnosis.diagnostics = []) :
    diagnosis.terminator = some diagnosis.lines.length ∧ Clean diagnosis.lines := by
  cases diagnosed with
  | unended endless =>
      have found := shows_of_diagnostics_eq_nil noErrors .missingTerminator
      rw [Outline.shows, terminator?_of_endless objective endless] at found
      cases found
  | @ended kept ending behind before ends =>
      have noError := shows_of_diagnostics_eq_nil noErrors
      have constraints := constraints_of_ended objective before ends behind
      have initializer := noError .missingInitializer
      have direction := noError .missingDirection
      have relation := noError .missingRelation
      have rightHandSide := noError .missingRightHandSide
      rw [Outline.shows, constraints, List.any_map, List.any_eq_false] at relation
      rw [Outline.shows, constraints, List.any_map, List.any_eq_false] at rightHandSide
      refine ⟨rfl, ?_, ?_, ?_, ?_⟩
      · cases kept with
        | nil =>
            -- The line behind the objective cannot be both initializer and terminator.
            rw [Outline.shows] at initializer
            simp [hasKind_initializer_of_isTerminatorLine ends] at initializer
        | cons first others =>
            simp
      · intro line isObjective
        cases isObjective
        rw [direction?]
        rw [Outline.shows] at direction
        split
        · rfl
        · split
          · rfl
          · next noMin noMax =>
              simp [noMin, noMax] at direction
      · intro line member
        have isSome := relation line member
        simpa [Option.isSome_iff_ne_none] using isSome
      · intro line member
        have isSome := rightHandSide line member
        simpa [Option.isSome_iff_ne_none] using isSome

end LinearProgram.Formulation
