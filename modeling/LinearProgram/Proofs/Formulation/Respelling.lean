import LinearProgram.Formulation.Basic
import LinearProgram.Proofs.Line.SameOutcome

namespace LinearProgram.Formulation

/-!
# Other spellings of a problem

The spelling of its lines does not change a problem (`sameProblem_of_respelled`):
not what a check finds, where it cuts the lines, nor any number that is read from
them.
-/

/-- A check finds the same errors and cuts the lines of two spellings in the same place. -/
inductive SameDiagnosis : Except Failure Diagnosis → Except Failure Diagnosis → Prop where
  | found
      {lines others : List String}
      (diagnostics : List Diagnostic)
      (terminator : Option Nat)
      (kept : List.Forall₂ Text.Respelled lines others) :
      SameDiagnosis (.ok ⟨diagnostics, terminator, lines⟩)
        (.ok ⟨diagnostics, terminator, others⟩)
  | empty : SameDiagnosis (.error .emptyProblem) (.error .emptyProblem)

/-- Nothing that is asked of the lines of two problems tells the problems apart. -/
structure SameProblem (lines others : List String) : Prop where
  diagnosis : SameDiagnosis (diagnose lines) (diagnose others)
  /-- The variables of each line. -/
  variableSets :
    List.Forall₂
      (fun line other =>
        SameOutcome (VariableSet.ofTokens (tokenize line))
          (VariableSet.ofTokens (tokenize other)))
      lines others
  widest : SameOutcome (widestVariables lines) (widestVariables others)
  dimensions : SameOutcome (dimensionsOf lines) (dimensionsOf others)
  matrices (dimensions : Dimensions) :
    SameOutcome (assemble lines dimensions) (assemble others dimensions)
  matrix (dimensions : Dimensions) (name : MatrixName) :
    SameOutcome (assembleOne lines dimensions name) (assembleOne others dimensions name)

/-! ## Diagnosis -/

section Diagnosis

/-- The tokens of the lines of two problems. -/
structure Outline.Respelled (outline other : Outline) : Prop where
  objective : List.Forall₂ Token.Respelled outline.objective other.objective
  following :
    List.Forall₂ (List.Forall₂ Token.Respelled) outline.following other.following

variable {outline other : Outline} (alike : outline.Respelled other)

include alike

theorem terminator?_congr : outline.terminator? = other.terminator? := by
  have found := congrArg (List.findIdx? id)
    (map_eq_of_forall₂ alike.following fun _ _ => isTerminatorLine_congr)
  rwa [List.findIdx?_map, List.findIdx?_map] at found

/-- The constraints of a respelled problem are those of the problem, respelled. -/
theorem respelled_constraints :
    List.Forall₂ (List.Forall₂ Token.Respelled) outline.constraints other.constraints := by
  rw [Outline.constraints, Outline.constraints, terminator?_congr alike]
  cases other.terminator? with
  | none =>
      exact alike.following
  | some count =>
      exact List.forall₂_take count alike.following

/-- The same errors are present, whatever the spelling. -/
theorem shows_congr (diagnostic : Diagnostic) :
    outline.shows diagnostic = other.shows diagnostic := by
  have constraints := respelled_constraints alike
  cases diagnostic with
  | missingDirection =>
      simp only [Outline.shows, hasKind_congr alike.objective]
  | ambiguousDirection =>
      simp only [Outline.shows, hasKind_congr alike.objective]
  | missingInitializer =>
      have following := alike.following
      simp only [Outline.shows]
      generalize outline.following = lines at following
      generalize other.following = others at following
      cases following with
      | nil =>
          rfl
      | cons head _ =>
          simp only [List.head?_cons, Option.any_some, hasKind_congr head]
  | missingTerminator =>
      simp only [Outline.shows, terminator?_congr alike]
  | missingRelation =>
      exact any_eq_of_forall₂ constraints fun _ _ same =>
        congrArg Option.isNone (relation?_congr same)
  | missingRightHandSide =>
      refine any_eq_of_forall₂ constraints fun _ _ same => ?_
      have texts := congrArg Option.isNone (rightHandSide?_congr same)
      rwa [Option.isNone_map, Option.isNone_map] at texts
  | missingSign =>
      exact any_eq_of_forall₂ (.cons alike.objective constraints) fun _ _ same =>
        congrArg not (signsBalance_congr same)

theorem diagnostics_congr : outline.diagnostics = other.diagnostics := by
  rw [Outline.diagnostics, Outline.diagnostics, funext (shows_congr alike)]

end Diagnosis

/-! ## Numbers -/

section Tokens

variable
  {constraints others : List (List Token)}
  (alike : List.Forall₂ (List.Forall₂ Token.Respelled) constraints others)

include alike

theorem coefficientRows_congr (dimensions : Dimensions) :
    SameOutcome (coefficientRows dimensions constraints)
      (coefficientRows dimensions others) := by
  rw [coefficientRows, coefficientRows]
  have taken := List.forall₂_take dimensions.constraintCount alike
  exact (SameOutcome.mapM taken fun _ _ same => coefficients_congr same _).bind fun _ =>
    .ok _

/-- What is found alike in each line is found alike in all. -/
theorem forEachConstraint_congr
    {find : Nat → List Token → Except Failure α}
    (each : ∀ line tokens other, List.Forall₂ Token.Respelled tokens other →
      SameOutcome (find line tokens) (find line other)) :
    SameOutcome (forEachConstraint find constraints) (forEachConstraint find others) := by
  refine SameOutcome.mapM (forall₂_zipIdx alike 1) ?_
  rintro ⟨tokens, line⟩ ⟨other, _⟩ ⟨same, rfl⟩
  exact each line tokens other same

theorem rightHandSides_congr :
    SameOutcome (rightHandSides constraints) (rightHandSides others) := by
  refine forEachConstraint_congr alike fun line tokens other same => ?_
  have texts := rightHandSide?_congr same
  rw [rightHandSide, rightHandSide]
  cases found : rightHandSide? tokens with
  | none =>
      rw [found, Option.map_none, eq_comm, Option.map_eq_none_iff] at texts
      rw [texts]
      exact .refl _
  | some token =>
      rw [found, Option.map_some, eq_comm, Option.map_eq_some_iff] at texts
      obtain ⟨otherToken, otherFound, text⟩ := texts
      rw [otherFound]
      simp only [text]
      exact .refl _

theorem relations_congr : SameOutcome (relations constraints) (relations others) := by
  refine forEachConstraint_congr alike fun line tokens other same => ?_
  rw [relation, relation, relation?_congr same]
  exact .refl _

end Tokens

theorem direction_congr
    {tokens others : List Token}
    (alike : List.Forall₂ Token.Respelled tokens others) :
    SameOutcome (direction tokens) (direction others) := by
  rw [direction, direction, direction?_congr alike]
  exact .refl _

section Lines

variable {lines others : List String} (alike : List.Forall₂ Text.Respelled lines others)

include alike

theorem respelled_tokenize_lines :
    List.Forall₂ (List.Forall₂ Token.Respelled)
      (lines.map tokenize) (others.map tokenize) := by
  rw [List.forall₂_map_left_iff, List.forall₂_map_right_iff]
  exact alike.imp fun _ _ => respelled_tokenize

/-- A check of respelled lines finds the same and keeps lines that are respelled. -/
theorem diagnose_congr : SameDiagnosis (diagnose lines) (diagnose others) := by
  cases alike with
  | nil =>
      exact .empty
  | @cons objective other following followers head tail =>
      have outlines :
          Outline.Respelled ⟨tokenize objective, following.map tokenize⟩
            ⟨tokenize other, followers.map tokenize⟩ :=
        ⟨respelled_tokenize head, respelled_tokenize_lines tail⟩
      simp only [diagnose, terminator?_congr outlines, diagnostics_congr outlines]
      split
      · exact .found _ _ (.cons head (List.forall₂_take _ tail))
      · exact .found _ _ (.cons head tail)

theorem widestFrom_congr (widest : VariableSet) :
    SameOutcome (widestFrom widest lines) (widestFrom widest others) := by
  induction alike generalizing widest with
  | nil =>
      exact .ok widest
  | cons head _ inductionHypothesis =>
      rw [widestFrom, widestFrom]
      exact (VariableSet.ofTokens_congr (respelled_tokenize head)).bind fun set =>
        inductionHypothesis _

theorem lineWidths_congr : SameOutcome (lineWidths lines) (lineWidths others) := by
  refine SameOutcome.mapM (forall₂_zipIdx alike 0) ?_
  rintro ⟨text, line⟩ ⟨other, _⟩ ⟨same, rfl⟩
  simp only [lineWidth]
  exact (VariableSet.ofTokens_congr (respelled_tokenize same)).bind fun set => .refl _

theorem dimensionsOf_congr : SameOutcome (dimensionsOf lines) (dimensionsOf others) := by
  rw [dimensionsOf, dimensionsOf, alike.length_eq]
  exact (lineWidths_congr alike).bind fun widths => .ok _

theorem respelled_constraintTokens :
    List.Forall₂ (List.Forall₂ Token.Respelled)
      (constraintTokens lines) (constraintTokens others) := by
  cases alike with
  | nil =>
      exact .nil
  | cons _ tail =>
      exact respelled_tokenize_lines tail

/-- What is read from the objective, if there is one. -/
theorem objectiveTokens_bind_congr
    {next : List Token → Except Failure α}
    {otherNext : List Token → Except Failure α}
    (each : ∀ tokens other, List.Forall₂ Token.Respelled tokens other →
      SameOutcome (next tokens) (otherNext other)) :
    SameOutcome (objectiveTokens lines >>= next) (objectiveTokens others >>= otherNext) := by
  cases alike with
  | nil =>
      exact .refl (.error .emptyProblem)
  | cons head _ =>
      exact each _ _ (respelled_tokenize head)

/-- A respelled problem has the same matrices, or fails alike. -/
theorem assemble_congr (dimensions : Dimensions) :
    SameOutcome (assemble lines dimensions) (assemble others dimensions) := by
  have constraints := respelled_constraintTokens alike
  refine objectiveTokens_bind_congr alike fun tokens other objective => ?_
  refine (coefficientRows_congr constraints dimensions).bind fun a => ?_
  refine (rightHandSides_congr constraints).bind fun b => ?_
  refine (coefficients_congr objective _).bind fun c => ?_
  refine (relations_congr constraints).bind fun eqin => ?_
  exact (direction_congr objective).bind fun direction => .ok _

theorem assembleOne_congr (dimensions : Dimensions) (name : MatrixName) :
    SameOutcome (assembleOne lines dimensions name)
      (assembleOne others dimensions name) := by
  have constraints := respelled_constraintTokens alike
  cases name with
  | a =>
      exact (coefficientRows_congr constraints dimensions).bind fun _ => .ok _
  | b =>
      exact (rightHandSides_congr constraints).bind fun _ => .ok _
  | c =>
      exact objectiveTokens_bind_congr alike fun _ _ objective =>
        (coefficients_congr objective _).bind fun _ => .ok _
  | eqin =>
      exact (relations_congr constraints).bind fun _ => .ok _
  | minMax =>
      exact objectiveTokens_bind_congr alike fun _ _ objective =>
        (direction_congr objective).bind fun _ => .ok _
  | varConstr =>
      exact .refl _

end Lines

/-- Spelling does not change a problem. -/
theorem sameProblem_of_respelled
    {lines others : List String}
    (alike : List.Forall₂ Text.Respelled lines others) :
    SameProblem lines others where
  diagnosis := diagnose_congr alike
  variableSets := alike.imp fun _ _ same => VariableSet.ofTokens_congr (respelled_tokenize same)
  widest := widestFrom_congr alike .empty
  dimensions := dimensionsOf_congr alike
  matrices := assemble_congr alike
  matrix := assembleOne_congr alike

/-- A capital for a small letter, a dash for a hyphen, and an index that is too large. -/
theorem sameProblem_of_respelled_dashes :
    let lines := ["Max3x1-2x2", "s.t.x1—X99999999999999999999<=9", "End"]
    let others := ["mAX3X1–2x2", "S.T.X1-x99999999999999999999<=9", "END"]
    List.Forall₂ Text.Respelled lines others ∧ SameProblem lines others ∧
      dimensionsOf lines = .error (.invalidNumber "X99999999999999999999") ∧
      dimensionsOf others = .error (.invalidNumber "x99999999999999999999") := by
  intro lines others
  have alike : List.Forall₂ Text.Respelled lines others := by
    decide +kernel
  exact ⟨alike, sameProblem_of_respelled alike, rfl, rfl⟩

end LinearProgram.Formulation
