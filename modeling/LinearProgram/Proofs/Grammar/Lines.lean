import LinearProgram.Formulation.Assembly
import LinearProgram.Proofs.Grammar.Meaning

namespace LinearProgram.Grammar

/-!
# The lines of objectives and constraints

An objective has one direction, and a constraint has one relation with a bound
right behind it, whatever terms stand before them.
-/

/-- The tokens of the line of an objective. -/
inductive ObjectiveLine (direction : Direction) (objective : Expression) :
    List Token → Prop where
  | parts
      {tokens : List Token}
      {finish : Token}
      (isObjective : ObjectiveTokens direction objective tokens)
      (isFinish : finish.kind = .finish) :
      ObjectiveLine direction objective (tokens ++ [finish])

/-- The tokens of the line of a constraint, which a keyword may introduce. -/
inductive ConstraintLine (constraint : Constraint) : List Token → Prop where
  | parts
      {before tokens : List Token}
      {finish : Token}
      (isBefore : ∀ token ∈ before, token.kind = .initializer)
      (isConstraint : ConstraintTokens constraint tokens)
      (isFinish : finish.kind = .finish) :
      ConstraintLine constraint (before ++ tokens ++ [finish])

namespace ObjectiveLine

variable {direction : Direction} {objective : Expression} {tokens : List Token}

/-- An objective is a line with terms behind its direction. -/
theorem isLine
    (line : ObjectiveLine direction objective tokens) :
    LineTokens objective tokens := by
  cases line with
  | @parts _ finish isObjective isFinish =>
      cases isObjective with
      | @parts keyword _ kind terms =>
          have isBefore : ∀ token ∈ [keyword],
              token.kind.isSign = false ∧ token.kind ≠ .integer ∧
              token.kind ≠ .variable := by
            simp [kind, TokenKind.isSign]
          have isBehind : ∀ token ∈ [finish],
              token.kind.isSign = false ∧ token.kind ≠ .variable := by
            simp [isFinish, TokenKind.isSign]
          exact .parts isBefore terms isBehind

/-- An objective has the one direction that it is written with. -/
theorem hasKind_direction_iff
    (line : ObjectiveLine direction objective tokens)
    {other : Direction} :
    hasKind (.direction other) tokens ↔ other = direction := by
  cases line with
  | @parts _ finish isObjective isFinish =>
      cases isObjective with
      | @parts keyword tokens kind terms =>
          have noDirection : hasKind (.direction other) tokens = false := by
            rw [hasKind, List.any_eq_false]
            intro token member
            rw [beq_iff_eq]
            intro isDirection
            have isTerm := kind_of_mem_termsTokens terms member
            rw [isDirection] at isTerm
            rcases isTerm with isSign | isInteger | isVariable
            · cases isSign
            · cases isInteger
            · cases isVariable
          have noneAtEnd : hasKind (.direction other) [finish] = false := by
            simp [hasKind, isFinish]
          rw [hasKind] at noDirection noneAtEnd ⊢
          rw [List.cons_append, List.any_cons, List.any_append, noDirection,
            noneAtEnd, kind, Bool.or_false, Bool.or_false, beq_iff_eq,
            TokenKind.direction.injEq]
          exact eq_comm

end ObjectiveLine

namespace ConstraintLine

variable {constraint : Constraint} {tokens : List Token}

/-- A constraint is a line with terms in front of its relation. -/
theorem isLine
    (line : ConstraintLine constraint tokens) :
    LineTokens constraint.expression tokens := by
  cases line with
  | @parts before _ finish isBefore isConstraint isFinish =>
      cases isConstraint with
      | @parts tokens symbol bound terms kind boundKind reads =>
          have others : ∀ token ∈ before,
              token.kind.isSign = false ∧ token.kind ≠ .integer ∧
              token.kind ≠ .variable := by
            intro token member
            simp [isBefore token member, TokenKind.isSign]
          have isBehind : ∀ token ∈ [symbol, bound, finish],
              token.kind.isSign = false ∧ token.kind ≠ .variable := by
            simp [kind, boundKind, isFinish, TokenKind.isSign]
          have whole : before ++ (tokens ++ [symbol, bound]) ++ [finish] =
              before ++ tokens ++ [symbol, bound, finish] := by
            simp
          rw [whole]
          exact .parts others terms isBehind

/-- A constraint is never taken for the terminator. -/
theorem isTerminatorLine_eq_false
    (line : ConstraintLine constraint tokens) :
    isTerminatorLine tokens = false := by
  cases line with
  | parts isBefore isConstraint isFinish =>
      cases isConstraint with
      | parts terms kind boundKind reads =>
          rw [isTerminatorLine, beq_eq_false_iff_ne]
          intro same
          have lengths := congrArg List.length same
          simp only [List.length_map, List.length_append, List.length_cons,
            List.length_nil]
            at lengths
          omega

/-- No relation stands in front of that of a constraint. -/
theorem split
    (line : ConstraintLine constraint tokens) :
    ∃ before symbol bound finish, tokens = before ++ [symbol, bound, finish] ∧
      (∀ token ∈ before, token.kind.relation? = none) ∧
      symbol.kind = .relation constraint.relation ∧ bound.kind = .integer ∧
      Term.integerValue bound.text = .ok constraint.bound := by
  cases line with
  | @parts before _ finish isBefore isConstraint isFinish =>
      cases isConstraint with
      | @parts tokens symbol bound terms kind boundKind reads =>
          refine ⟨before ++ tokens, symbol, bound, finish, by simp, ?_, kind,
            boundKind, reads⟩
          intro token member
          rcases List.mem_append.mp member with inBefore | inTerms
          · rw [isBefore token inBefore]
            rfl
          · generalize found : token.kind = kind
            have isTerm := kind_of_mem_termsTokens terms inTerms
            rw [found] at isTerm
            rcases isTerm with isSign | rfl | rfl
            · cases kind <;> first | rfl | cases isSign
            · rfl
            · rfl

theorem relation?_eq
    (line : ConstraintLine constraint tokens) :
    relation? tokens = some constraint.relation := by
  obtain ⟨before, symbol, bound, finish, rfl, noRelation, kind, _⟩ := line.split
  rw [relation?, List.findSome?_append, List.findSome?_eq_none_iff.mpr noRelation]
  simp [kind, TokenKind.relation?]

/-- No right-hand side is found in front of the relation. -/
theorem rightHandSide?_append
    {before : List Token}
    (noRelation : ∀ token ∈ before, token.kind.relation? = none)
    (rest : List Token) :
    rightHandSide? (before ++ rest) = rightHandSide? rest := by
  induction before with
  | nil =>
      rfl
  | cons token behind inductionHypothesis =>
      rw [List.forall_mem_cons] at noRelation
      rw [← inductionHypothesis noRelation.2, List.cons_append]
      cases behind ++ rest with
      | nil =>
          rfl
      | cons second others =>
          rw [rightHandSide?, TokenKind.isRelation, noRelation.1]
          rfl

/-- The bound of a constraint is found behind its relation. -/
theorem rightHandSide?_eq
    (line : ConstraintLine constraint tokens) :
    ∃ bound, rightHandSide? tokens = some bound ∧
      Term.integerValue bound.text = .ok constraint.bound := by
  obtain ⟨before, symbol, bound, finish, rfl, noRelation, kind, boundKind, reads⟩ :=
    line.split
  refine ⟨bound, ?_, reads⟩
  rw [rightHandSide?_append noRelation, rightHandSide?]
  simp [TokenKind.isRelation, TokenKind.relation?, kind, boundKind]

end ConstraintLine

end LinearProgram.Grammar
