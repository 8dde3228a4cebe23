import LinearProgram.Formulation.Basic
import LinearProgram.Proofs.Formulation.Building
import LinearProgram.Proofs.Grammar.Layout

namespace LinearProgram.Grammar

/-!
# From the text of a problem to its matrices

The text of a problem is cut into lines, checked without findings and turned
into the matrices of the problem, however it has been spelled and laid out.
-/

/-- The lines of an objective and of constraints that read as those of a problem. -/
structure Problem.ReadsAs
    (problem : Problem)
    (objective : String)
    (constraints : List String) : Prop where
  objectiveLine :
    ObjectiveLine problem.direction problem.objective (tokenize objective)
  constraintLines :
    List.Forall₂ (fun constraint line => ConstraintLine constraint (tokenize line))
      problem.constraints constraints
  introduced :
    constraints.head?.any fun line => hasKind .initializer (tokenize line)

/-- A written objective is read as the line of one. -/
theorem objectiveLine_of_spells
    {direction : Direction}
    {objective : Expression}
    {text : List Char}
    (spells : SpellsObjective direction objective text) :
    ObjectiveLine direction objective (tokenize (String.ofList text)) := by
  obtain ⟨tokens, finish, whole, isObjective, isFinish⟩ :=
    (reads_objective spells).tokenize
  rw [whole]
  exact .parts isObjective isFinish

/-- A written constraint is read as the line of one. -/
theorem constraintLine_of_spells
    {constraint : Constraint}
    {text : List Char}
    (spells : SpellsConstraint constraint text) :
    ConstraintLine constraint (tokenize (String.ofList text)) := by
  obtain ⟨tokens, finish, whole, isConstraint, isFinish⟩ :=
    (reads_constraint spells).tokenize
  have isBefore : ∀ token ∈ ([] : List Token), token.kind = .initializer := by
    simp
  rw [whole]
  exact .parts isBefore isConstraint isFinish

/-- The first constraint is read behind the keyword that introduces it. -/
theorem firstLine_of_spells
    {keyword initializer text : List Char}
    {constraint : Constraint}
    (isInitializer : keyword ∈ initializers)
    (spellsInitializer : SpellsKeyword keyword initializer)
    (spells : SpellsConstraint constraint text) :
    ConstraintLine constraint (tokenize (String.ofList (initializer ++ text))) ∧
      hasKind .initializer (tokenize (String.ofList (initializer ++ text))) := by
  obtain ⟨_, finish, whole, ⟨introduction, tokens, rfl, kind, isConstraint⟩,
      isFinish⟩ :=
    (reads_first isInitializer spellsInitializer spells).tokenize
  have isBefore : ∀ token ∈ [introduction], token.kind = .initializer := by
    simp [kind]
  rw [whole]
  constructor
  · exact .parts isBefore isConstraint isFinish
  · simp [hasKind, kind]

/-- The keyword at the end is read as the terminator, in either case. -/
theorem isTerminatorLine_of_spells
    {text : List Char}
    (spells : SpellsKeyword "end".toList text) :
    isTerminatorLine (tokenize (String.ofList text)) := by
  obtain ⟨_, finish, whole, ⟨start, stop, rfl⟩, isFinish⟩ :=
    (reads_terminator spells []).tokenize
  rw [whole, isTerminatorLine]
  simp [isFinish]

/--
The lines of a problem read as its objective, its constraints and the
terminator.
-/
theorem readsAs_of_spells
    {problem : Problem}
    {lines : List (List Char)}
    (spells : problem.Spells lines) :
    ∃ objective constraints terminator,
      lines.map String.ofList = objective :: (constraints ++ [terminator]) ∧
      problem.ReadsAs objective constraints ∧
      isTerminatorLine (tokenize terminator) := by
  cases spells with
  | @lines objective keyword initializer first terminator others spellsObjective
      isInitializer spellsInitializer spellsFirst spellsOthers spellsTerminator =>
      obtain ⟨firstLine, introduced⟩ :=
        firstLine_of_spells isInitializer spellsInitializer spellsFirst
      refine ⟨String.ofList objective,
        ((initializer ++ first) :: others).map String.ofList,
        String.ofList terminator, by simp,
        ⟨objectiveLine_of_spells spellsObjective, ?_, ?_⟩,
        isTerminatorLine_of_spells spellsTerminator⟩
      · refine .cons firstLine (List.forall₂_map_right_iff.mpr ?_)
        exact spellsOthers.imp fun _ _ spells => constraintLine_of_spells spells
      · simpa using introduced

namespace Problem.ReadsAs

variable {problem : Problem} {objective : String} {constraints : List String}

/-- Each constraint line belongs to a constraint of the problem. -/
theorem exists_constraint
    (readsAs : problem.ReadsAs objective constraints)
    {line : String}
    (member : line ∈ constraints) :
    ∃ constraint ∈ problem.constraints, ConstraintLine constraint (tokenize line) :=
  exists_mem_of_forall₂ readsAs.constraintLines member

theorem length_constraints
    (readsAs : problem.ReadsAs objective constraints) :
    problem.constraints.length = constraints.length :=
  readsAs.constraintLines.length_eq

/-- The terminator is found behind the constraints. -/
theorem terminator?_eq
    (readsAs : problem.ReadsAs objective constraints)
    {terminator : String}
    (isTerminator : isTerminatorLine (tokenize terminator))
    (behind : List String) :
    ((constraints ++ terminator :: behind).map tokenize).findIdx? isTerminatorLine =
      some constraints.length := by
  have noneBefore : (constraints.map tokenize).findIdx? isTerminatorLine =
      none := by
    rw [List.findIdx?_eq_none_iff]
    intro tokens member
    obtain ⟨line, lineMember, rfl⟩ := List.mem_map.mp member
    obtain ⟨constraint, _, isConstraint⟩ := readsAs.exists_constraint lineMember
    exact isConstraint.isTerminatorLine_eq_false
  rw [List.map_append, List.findIdx?_append, noneBefore, List.map_cons,
    List.findIdx?_cons, isTerminator]
  simp

/-- No error is shown by the tokens of a problem. -/
theorem shows_eq_false
    (readsAs : problem.ReadsAs objective constraints)
    {outline : Formulation.Outline}
    {behind : List (List Token)}
    (tokens : outline = ⟨tokenize objective, constraints.map tokenize ++ behind⟩)
    {count : Nat}
    (terminator : outline.terminator? = some count)
    (kept : outline.constraints = constraints.map tokenize)
    (diagnostic : Formulation.Diagnostic) :
    outline.shows diagnostic = false := by
  have direction : ∀ other, hasKind (.direction other) outline.objective ↔
      other = problem.direction := by
    intro other
    rw [tokens]
    exact readsAs.objectiveLine.hasKind_direction_iff
  cases diagnostic with
  | missingDirection =>
      have found := (direction problem.direction).mpr rfl
      rw [Formulation.Outline.shows]
      cases shape : problem.direction <;> rw [shape] at found <;> simp [found]
  | ambiguousDirection =>
      rw [← Bool.not_eq_true, Formulation.Outline.shows, Bool.and_eq_true,
        direction, direction]
      rintro ⟨isMin, isMax⟩
      rw [← isMin] at isMax
      cases isMax
  | missingInitializer =>
      have introduced := readsAs.introduced
      rw [Formulation.Outline.shows, tokens]
      cases constraints with
      | nil =>
          cases introduced
      | cons first others =>
          simpa using introduced
  | missingTerminator =>
      rw [Formulation.Outline.shows, terminator]
      rfl
  | missingRelation =>
      rw [Formulation.Outline.shows, kept, List.any_map, List.any_eq_false]
      intro line member
      obtain ⟨constraint, _, isConstraint⟩ := readsAs.exists_constraint member
      simp [isConstraint.relation?_eq]
  | missingRightHandSide =>
      rw [Formulation.Outline.shows, kept, List.any_map, List.any_eq_false]
      intro line member
      obtain ⟨constraint, _, isConstraint⟩ := readsAs.exists_constraint member
      obtain ⟨bound, found, _⟩ := isConstraint.rightHandSide?_eq
      simp [found]
  | missingSign =>
      have objectiveTokens : outline.objective = tokenize objective := by
        rw [tokens]
      rw [Formulation.Outline.shows, kept, objectiveTokens, ← List.map_cons,
        List.any_map, List.any_eq_false]
      intro line member
      have balanced : signsBalance (tokenize line) := by
        rcases List.mem_cons.mp member with rfl | inConstraints
        · exact signsBalance_lineTokens readsAs.objectiveLine.isLine
        · obtain ⟨constraint, _, isConstraint⟩ :=
            readsAs.exists_constraint inConstraints
          exact signsBalance_lineTokens isConstraint.isLine
      simp [balanced]

/-- The check finds no errors and cuts the lines at the terminator. -/
theorem diagnose_eq
    (readsAs : problem.ReadsAs objective constraints)
    {terminator : String}
    (isTerminator : isTerminatorLine (tokenize terminator))
    (behind : List String) :
    Formulation.diagnose (objective :: (constraints ++ terminator :: behind)) =
      .ok ⟨[], some (constraints.length + 1), objective :: constraints⟩ := by
  let outline : Formulation.Outline :=
    ⟨tokenize objective, (constraints ++ terminator :: behind).map tokenize⟩
  have found : outline.terminator? = some constraints.length :=
    readsAs.terminator?_eq isTerminator behind
  have kept : outline.constraints = constraints.map tokenize := by
    rw [Formulation.Outline.constraints, found]
    simp [outline]
  have noErrors : outline.diagnostics = [] := by
    rw [Formulation.Outline.diagnostics, List.filter_eq_nil_iff]
    intro diagnostic _
    rw [readsAs.shows_eq_false (by rw [← List.map_append]) found kept diagnostic]
    exact Bool.false_ne_true
  rw [Formulation.diagnose_of_terminator rfl found, noErrors]
  simp

theorem lines_forall₂
    (readsAs : problem.ReadsAs objective constraints) :
    List.Forall₂ (fun line expression => LineTokens expression (tokenize line))
      (objective :: constraints) problem.expressions := by
  refine .cons readsAs.objectiveLine.isLine ?_
  rw [List.forall₂_map_right_iff]
  exact readsAs.constraintLines.flip.imp fun _ _ line => line.isLine

/-- The width of a line is the index of its last term. -/
theorem lineWidth_eq
    {line : String}
    {expression : Expression}
    (isLine : LineTokens expression (tokenize line))
    (number : Nat) :
    Formulation.lineWidth number line = .ok expression.lastIndex := by
  obtain ⟨set, found, width⟩ := width_lineTokens isLine
  have positive : set.width ≠ 0 := by
    have bound := (expression.terms.getLast expression.nonempty).indexPositive
    rw [width, Expression.lastIndex]
    omega
  rw [← width]
  exact bind_eq_ok_iff.mpr ⟨set, found, by rw [if_neg positive]; rfl⟩

/-- The width of each line is that of its terms. -/
theorem dimensionsOf_eq
    (readsAs : problem.ReadsAs objective constraints) :
    Formulation.dimensionsOf (objective :: constraints) =
      .ok ⟨problem.constraints.length, problem.width⟩ := by
  have widths : Formulation.lineWidths (objective :: constraints) =
      .ok (problem.expressions.map Expression.lastIndex) := by
    rw [Formulation.lineWidths_eq_ok_iff, List.forall₂_map_right_iff]
    refine readsAs.lines_forall₂.imp fun line expression isLine => ?_
    rw [← Formulation.lineWidth_eq_ok_iff 0]
    exact lineWidth_eq isLine 0
  refine Formulation.dimensionsOf_eq_ok_iff.mpr ⟨_, widths, ?_⟩
  rw [readsAs.length_constraints]
  rfl

/-- The matrices of the problem are made of its lines. -/
theorem madeOf
    (readsAs : problem.ReadsAs objective constraints) :
    Formulation.MadeOf problem.matrices objective constraints problem.width where
  rows := by
    have covered : ∀ constraint ∈ problem.constraints,
        ∀ term ∈ constraint.expression.terms, term.index ≤ problem.width := by
      intro constraint member
      exact problem.covered constraint.expression
        (List.mem_cons_of_mem _ (List.mem_map_of_mem member))
    have both := (List.forall₂_and_left _ _).mpr ⟨covered, readsAs.constraintLines⟩
    rw [Problem.matrices, List.forall₂_map_right_iff]
    refine both.flip.imp ?_
    rintro line constraint ⟨termsCovered, isConstraint⟩
    exact coefficients_lineTokens isConstraint.isLine termsCovered
  bounds := by
    rw [Problem.matrices, List.forall₂_map_right_iff]
    exact readsAs.constraintLines.flip.imp fun _ _ isConstraint =>
      isConstraint.rightHandSide?_eq
  objectiveRow :=
    coefficients_lineTokens readsAs.objectiveLine.isLine
      (problem.covered problem.objective List.mem_cons_self)
  relations := by
    rw [Problem.matrices, List.forall₂_map_right_iff]
    exact readsAs.constraintLines.flip.imp fun _ _ isConstraint =>
      isConstraint.relation?_eq
  direction := by
    have isDirection : ∀ other, hasKind (.direction other) (tokenize objective) =
        (other == problem.direction) := by
      intro other
      rw [Bool.eq_iff_iff, beq_iff_eq]
      exact readsAs.objectiveLine.hasKind_direction_iff
    change direction? (tokenize objective) = some problem.direction
    rw [direction?, isDirection, isDirection]
    cases problem.direction <;> rfl
  primal := rfl

/-- The lines of a problem have the matrices of the problem. -/
theorem assemble_eq
    (readsAs : problem.ReadsAs objective constraints) :
    Formulation.assemble (objective :: constraints)
        ⟨problem.constraints.length, problem.width⟩ =
      .ok problem.matrices :=
  (Formulation.assemble_eq_ok_iff readsAs.length_constraints).mpr readsAs.madeOf

end Problem.ReadsAs

/--
The text of a problem is read, checked without findings and turned into the
dimensions, the matrices and the dual of the problem.
-/
theorem matrices_of_renders
    {problem : Problem}
    {text : String}
    (renders : problem.Renders text.toList)
    (read : String → Except FileError String) :
    ∃ formulation checked,
      Formulation.ofSource read none (some text) "\n" = .ok formulation ∧
      formulation.check = .ok checked ∧
      checked.diagnostics = [] ∧
      checked.terminator = some (problem.constraints.length + 1) ∧
      checked.dimensions = .ok ⟨problem.constraints.length, problem.width⟩ ∧
      checked.matrices = .ok problem.matrices ∧
      checked.dualMatrices = .ok problem.matrices.dual := by
  obtain ⟨lines, behind, spells, cut⟩ := linesOfText_renders renders
  obtain ⟨objective, constraints, terminator, split, readsAs, isTerminator⟩ :=
    readsAs_of_spells spells
  have whole : lines.map String.ofList ++ behind =
      objective :: (constraints ++ terminator :: behind) := by
    rw [split]
    simp
  rw [whole] at cut
  let checked : Formulation :=
    ⟨objective :: constraints, some [], some (constraints.length + 1)⟩
  have dimensions : checked.dimensions =
      .ok ⟨problem.constraints.length, problem.width⟩ :=
    bind_eq_ok_iff.mpr ⟨(), rfl, readsAs.dimensionsOf_eq⟩
  have matrices : checked.matrices = .ok problem.matrices :=
    bind_eq_ok_iff.mpr ⟨_, dimensions, readsAs.assemble_eq⟩
  refine ⟨.ofLines (objective :: (constraints ++ terminator :: behind)), checked,
    ?_, ?_, rfl, ?_, dimensions, matrices, ?_⟩
  · rw [Formulation.ofSource, cut]
    rfl
  · exact bind_eq_ok_iff.mpr ⟨_, readsAs.diagnose_eq isTerminator behind, rfl⟩
  · rw [readsAs.length_constraints]
  · rw [Formulation.dualMatrices, matrices]
    rfl

theorem magnitudeFits_two (value : Nat) (same : some 2 = some value) :
    (value : Int) ≤ Numeral.maxValue := by
  cases same
  decide

/-- Maximize the difference of the third variable and twice the first. -/
def sample : Problem where
  direction := .max
  objective := ⟨[⟨.plus, none, 3, by simp, by decide, by decide⟩,
    ⟨.minus, some 2, 1, magnitudeFits_two, by decide, by decide⟩], by simp⟩
  first := ⟨⟨[⟨.plus, none, 1, by simp, by decide, by decide⟩,
    ⟨.plus, some 2, 3, magnitudeFits_two, by decide, by decide⟩], by simp⟩,
    .le, 7, by decide⟩
  others := []
  covered := by
    simp [widthOf, Expression.lastIndex]

/-- The lines of the sample, with dashes, capitals and zeros in front of numbers. -/
theorem sample_spells :
    sample.Spells
      [['M', 'a', 'x', 'x', '3', '–', '0', '2', 'x', '1'],
        ['S', '.', 'T', '.', 'x', '1', '+', '2', 'X', '3', '<', '=', '0', '0', '7'],
        ['E', 'n', 'd']] := by
  have objective : SpellsTerms true sample.objective.terms
      (([] ++ [] ++ 'x' :: ['3']) ++
        ((['–'] ++ ['0', '2'] ++ 'x' :: ['1']) ++ [])) :=
    .cons (.parts (.omitted rfl) .omitted (.inl rfl) ⟨0, by decide⟩)
      (.cons (.parts .enDash (.number ⟨1, by decide⟩) (.inl rfl)
        ⟨0, by decide⟩) .nil)
  have first : SpellsTerms true sample.first.expression.terms
      (([] ++ [] ++ 'x' :: ['1']) ++ ((['+'] ++ ['2'] ++ 'X' :: ['3']) ++ [])) :=
    .cons (.parts (.omitted rfl) .omitted (.inl rfl) ⟨0, by decide⟩)
      (.cons (.parts .plus (.number ⟨0, by decide⟩) (.inr rfl) ⟨0, by decide⟩) .nil)
  have bound : SpellsNumber sample.first.bound ['0', '0', '7'] := ⟨2, by decide⟩
  have maximize : SpellsKeyword Direction.max.keyword ['M', 'a', 'x'] := rfl
  have subject : SpellsKeyword "s.t.".toList ['S', '.', 'T', '.'] := rfl
  have ends : SpellsKeyword "end".toList ['E', 'n', 'd'] := rfl
  exact .lines (.parts maximize objective) (by decide) subject
    (.parts first bound) .nil ends

/-- The sample with blanks put in, a blank line, and a line behind its end. -/
theorem matrices_of_renders_sample :
    ∃ formulation checked,
      Formulation.ofSource (fun _ => .error .notFound) none
        (some "Maxx3 – 02x1\n \nS.T. x1 + 2 X3 <= 007\nEnd\nmin x1") "\n" =
          .ok formulation ∧
      formulation.check = .ok checked ∧
      checked.diagnostics = [] ∧
      checked.matrices = .ok ⟨[[1, 0, 2]], [7], [-2, 0, 1], [.le], .max, none⟩ := by
  have objective : Padded _ "Maxx3 – 02x1".toList := padded_compact (by decide)
  have blankLine : Padded _ " ".toList := padded_compact (by decide)
  have first : Padded _ "S.T. x1 + 2 X3 <= 007".toList := padded_compact (by decide)
  have terminator : Padded _ "End".toList := padded_compact (by decide)
  have laid :=
    Laid.line objective (.blankLine blankLine (.line first (.line terminator .nil)))
  have layout :
      "Maxx3 – 02x1\n \nS.T. x1 + 2 X3 <= 007\nEnd\nmin x1".toList =
        ['\n'].intercalate
            ["Maxx3 – 02x1".toList, " ".toList, "S.T. x1 + 2 X3 <= 007".toList,
              "End".toList] ++
          '\n' :: "min x1".toList := by
    decide
  have renders :
      sample.Renders
        "Maxx3 – 02x1\n \nS.T. x1 + 2 X3 <= 007\nEnd\nmin x1".toList := by
    rw [layout]
    exact .goesOn sample_spells laid "min x1".toList
  obtain ⟨formulation, checked, reads, checks, noErrors, _, _, matrices, _⟩ :=
    matrices_of_renders renders fun _ => .error .notFound
  have sampleMatrices : sample.matrices =
      ⟨[[1, 0, 2]], [7], [-2, 0, 1], [.le], .max, none⟩ := by
    decide
  exact ⟨formulation, checked, reads, checks, noErrors,
    by rw [matrices, sampleMatrices]⟩

end LinearProgram.Grammar
