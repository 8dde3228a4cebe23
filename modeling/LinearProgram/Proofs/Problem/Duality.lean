import LinearProgram.Proofs.Problem.Shape
import LinearProgram.Proofs.Problem.Vectors
import Mathlib.Tactic.Linarith

namespace LinearProgram

/-!
# Duality

A multiplier for each constraint of a problem turns the problem into one whose
constraints have been moved into its objective, the Lagrangian. A dual feasible
point is exactly one at which the dual's objective bounds the Lagrangian,
wherever its variables are nonnegative and its left-hand sides stand in the
constraints' relations to the right-hand sides.

The equivalence is proved for a single multiplier and a single variable first
(`Restriction.holds_ofConstraint_iff`, `Relation.holds_dualRelation_iff`) and
carried to vectors by induction, where a position is probed by a point that
differs from a point already allowed at that position alone.
-/

/-- The meaning of a relation. -/
def Relation.Holds : Relation → Int → Int → Prop
  | .le, left, right => left ≤ right
  | .eq, left, right => left = right
  | .ge, left, right => right ≤ left

instance (relation : Relation) (left right : Int) :
    Decidable (relation.Holds left right) :=
  match relation with
  | .le => inferInstanceAs (Decidable (left ≤ right))
  | .eq => inferInstanceAs (Decidable (left = right))
  | .ge => inferInstanceAs (Decidable (right ≤ left))

/--
Numbers on the left stand in their relations to numbers on the right, position
by position.
-/
inductive Relation.HoldEach : List Relation → List Int → List Int → Prop where
  | nil :
      HoldEach [] [] []
  | cons
      {relation : Relation}
      {relations : List Relation}
      {left right : Int}
      {lefts rights : List Int} :
      relation.Holds left right →
      HoldEach relations lefts rights →
      HoldEach (relation :: relations) (left :: lefts) (right :: rights)

/-- The meaning of a restriction. -/
def Restriction.Holds : Restriction → Int → Prop
  | .free, _ => True
  | .nonNegative, value => 0 ≤ value
  | .nonPositive, value => value ≤ 0

instance (restriction : Restriction) (value : Int) :
    Decidable (restriction.Holds value) :=
  match restriction with
  | .free => .isTrue trivial
  | .nonNegative => inferInstanceAs (Decidable (0 ≤ value))
  | .nonPositive => inferInstanceAs (Decidable (value ≤ 0))

/-- A value is not better than a bound on the optimum in a direction. -/
def Direction.NotBetter : Direction → Int → Int → Prop
  | .min, value, bound => bound ≤ value
  | .max, value, bound => value ≤ bound

namespace Matrices

/--
A point lies where the variables may range: they are nonnegative unless
restricted otherwise.
-/
def Admits (matrices : Matrices) (point : List Int) : Prop :=
  match matrices.varConstr with
  | none => Nonnegative point
  | some restrictions => List.Forall₂ Restriction.Holds restrictions point

/--
A point satisfies the constraints of a problem and the restrictions on its
variables.
-/
structure Feasible (matrices : Matrices) (point : List Int) : Prop where
  constraints : Relation.HoldEach matrices.eqin
    (leftHandSides matrices.a point) matrices.b
  restrictions : matrices.Admits point

/--
The objective of a problem once its constraints have been moved into it, where
`sides` are the numbers that the left-hand sides are compared with.
-/
def lagrangian (matrices : Matrices) (point sides multipliers : List Int) : Int :=
  dot matrices.c point +
    dot multipliers (subtract sides (leftHandSides matrices.a point))

end Matrices

namespace Relation

theorem Holds.refl (relation : Relation) (value : Int) :
    relation.Holds value value := by
  cases relation <;> simp [Holds]

/-- Constraints hold one by one. -/
theorem holdEach_cons_iff
    {relation : Relation}
    {relations : List Relation}
    {left right : Int}
    {lefts rights : List Int} :
    HoldEach (relation :: relations) (left :: lefts) (right :: rights) ↔
      relation.Holds left right ∧ HoldEach relations lefts rights := by
  constructor
  · rintro (_ | ⟨headHolds, restHold⟩)
    exact ⟨headHolds, restHold⟩
  · rintro ⟨headHolds, restHold⟩
    exact .cons headHolds restHold

theorem HoldEach.length_left
    {relations : List Relation}
    {lefts rights : List Int}
    (hold : HoldEach relations lefts rights) :
    lefts.length = relations.length := by
  induction hold with
  | nil =>
      rfl
  | cons _ _ inductionHypothesis =>
      simp [inductionHypothesis]

/-- Every relation allows equality. -/
theorem HoldEach.refl
    {relations : List Relation}
    {values : List Int}
    (sameLength : values.length = relations.length) :
    HoldEach relations values values := by
  induction relations generalizing values with
  | nil =>
      obtain rfl : values = [] := List.eq_nil_of_length_eq_zero sameLength
      exact .nil
  | cons relation relations inductionHypothesis =>
      cases values with
      | nil =>
          cases sameLength
      | cons value values =>
          exact .cons (Holds.refl relation value)
            (inductionHypothesis (Nat.succ.inj sameLength))

end Relation

namespace Direction

theorem NotBetter.refl (direction : Direction) (value : Int) :
    direction.NotBetter value value := by
  cases direction <;> simp [NotBetter]

/-- Values that are not better add up to one that is not. -/
theorem NotBetter.add
    {direction : Direction}
    {value bound otherValue otherBound : Int}
    (notBetter : direction.NotBetter value bound)
    (otherNotBetter : direction.NotBetter otherValue otherBound) :
    direction.NotBetter (value + otherValue) (bound + otherBound) := by
  cases direction <;> exact add_le_add notBetter otherNotBetter

/-- What is added on both sides does not matter. -/
theorem notBetter_add_right_iff
    {direction : Direction}
    {value bound : Int}
    (added : Int) :
    direction.NotBetter (value + added) (bound + added) ↔
      direction.NotBetter value bound := by
  cases direction <;> simp [NotBetter]

/-- A factor that is not negative makes nothing better. -/
theorem NotBetter.mul_right
    {direction : Direction}
    {value bound factor : Int}
    (notBetter : direction.NotBetter value bound)
    (nonnegative : 0 ≤ factor) :
    direction.NotBetter (value * factor) (bound * factor) := by
  cases direction <;> exact mul_le_mul_of_nonneg_right notBetter nonnegative

end Direction

/--
A coefficient of the dual bounds that of the objective as the dual's constraints
demand.
-/
theorem Relation.holds_dualRelation_iff
    (direction : Direction)
    (product coefficient : Int) :
    direction.dualRelation.Holds product coefficient ↔
      direction.NotBetter coefficient product := by
  cases direction <;> rfl

/--
A multiplier obeys its restriction exactly if no number that stands in the
constraint's relation to the right-hand side beats the right-hand side.
-/
theorem Restriction.holds_ofConstraint_iff
    (direction : Direction)
    (relation : Relation)
    (multiplier bound : Int) :
    (Restriction.ofConstraint direction relation).Holds multiplier ↔
      ∀ side, relation.Holds side bound →
        direction.NotBetter (multiplier * side) (multiplier * bound) := by
  constructor
  · intro restricted side related
    cases direction <;> cases relation <;>
      simp only [Restriction.ofConstraint, Restriction.Holds, Relation.Holds,
        Direction.NotBetter] at restricted related ⊢ <;>
      first
      | exact mul_le_mul_of_nonneg_left related restricted
      | exact mul_le_mul_of_nonpos_left related restricted
      | rw [related]
  · intro bounded
    -- The side that probes the multiplier is one step away from the right-hand
    -- side.
    cases relation with
    | eq =>
        cases direction <;> exact trivial
    | le =>
        have step := bounded (bound - 1) (by simp [Relation.Holds])
        cases direction <;>
          simp only [Restriction.ofConstraint, Restriction.Holds,
            Direction.NotBetter, mul_sub, mul_one] at step ⊢ <;>
          linarith
    | ge =>
        have step := bounded (bound + 1) (by simp [Relation.Holds])
        cases direction <;>
          simp only [Restriction.ofConstraint, Restriction.Holds,
            Direction.NotBetter, mul_add, mul_one] at step ⊢ <;>
          linarith

/--
Multipliers obey their restrictions exactly if no left-hand sides that are
allowed by the constraints beat the right-hand sides.
-/
theorem Restriction.holdEach_ofConstraint_iff
    {direction : Direction}
    {relations : List Relation}
    {bounds multipliers : List Int}
    (boundCount : bounds.length = relations.length)
    (multiplierCount : multipliers.length = relations.length) :
    List.Forall₂ Restriction.Holds
        (relations.map (Restriction.ofConstraint direction)) multipliers ↔
      ∀ sides, Relation.HoldEach relations sides bounds →
        direction.NotBetter (dot multipliers sides) (dot multipliers bounds) := by
  induction relations generalizing bounds multipliers with
  | nil =>
      obtain rfl : multipliers = [] := List.eq_nil_of_length_eq_zero multiplierCount
      simp [Direction.NotBetter.refl]
  | cons relation relations inductionHypothesis =>
      cases bounds with
      | nil =>
          cases boundCount
      | cons bound bounds =>
          cases multipliers with
          | nil =>
              cases multiplierCount
          | cons multiplier multipliers =>
              have restCount : bounds.length = relations.length :=
                Nat.succ.inj boundCount
              have restIff :=
                inductionHypothesis restCount (Nat.succ.inj multiplierCount)
              rw [List.map_cons, List.forall₂_cons, restIff,
                Restriction.holds_ofConstraint_iff direction relation multiplier
                  bound]
              constructor
              · rintro ⟨headBounded, restBounded⟩ _ (_ | ⟨headHolds, restHold⟩)
                exact (headBounded _ headHolds).add (restBounded _ restHold)
              · intro bounded
                constructor
                · intro side headHolds
                  have probed := bounded (side :: bounds)
                    (.cons headHolds (Relation.HoldEach.refl restCount))
                  exact (Direction.notBetter_add_right_iff _).mp probed
                · intro sides restHold
                  have probed := bounded (bound :: sides)
                    (.cons (Relation.Holds.refl relation bound) restHold)
                  rw [dot_cons_cons, dot_cons_cons, add_comm,
                    add_comm (multiplier * bound)]
                    at probed
                  exact (Direction.notBetter_add_right_iff _).mp probed

/--
Products stand in the dual's relation to coefficients exactly if the
coefficients are not better than the products at any nonnegative point.
-/
theorem Relation.holdEach_dualRelation_iff
    {direction : Direction}
    {products coefficients : List Int}
    (sameLength : products.length = coefficients.length) :
    Relation.HoldEach (List.replicate coefficients.length direction.dualRelation)
        products coefficients ↔
      ∀ point, point.length = coefficients.length → Nonnegative point →
        direction.NotBetter (dot coefficients point) (dot products point) := by
  induction coefficients generalizing products with
  | nil =>
      obtain rfl : products = [] := List.eq_nil_of_length_eq_zero sameLength
      simp [Direction.NotBetter.refl, Relation.HoldEach.nil]
  | cons coefficient coefficients inductionHypothesis =>
      cases products with
      | nil =>
          cases sameLength
      | cons product products =>
          have restIff := inductionHypothesis (Nat.succ.inj sameLength)
          rw [List.length_cons, List.replicate_succ, Relation.holdEach_cons_iff,
            restIff, Relation.holds_dualRelation_iff]
          constructor
          · rintro ⟨headBounded, restBounded⟩ point pointLength nonnegative
            cases point with
            | nil =>
                cases pointLength
            | cons coordinate coordinates =>
                obtain ⟨headNonnegative, restNonnegative⟩ :=
                  nonnegative_cons.mp nonnegative
                exact (headBounded.mul_right headNonnegative).add
                  (restBounded coordinates
                    (Nat.succ.inj pointLength) restNonnegative)
          · intro bounded
            constructor
            · have probed :=
                bounded (1 :: List.replicate coefficients.length 0) (by simp)
                (nonnegative_cons.mpr ⟨by decide, nonnegative_replicate_zero _⟩)
              simpa using probed
            · intro coordinates restLength restNonnegative
              have probed := bounded (0 :: coordinates) (by simp [restLength])
                (nonnegative_cons.mpr ⟨le_refl 0, restNonnegative⟩)
              simpa using probed

namespace Matrices

/-- The Lagrangian, with the constraints' part taken column by column. -/
theorem lagrangian_eq
    {primal : Matrices}
    {constraintCount variableCount : Nat}
    (size : primal.HasSize constraintCount variableCount)
    {point sides multipliers : List Int}
    (pointLength : point.length = variableCount)
    (sideCount : sides.length = constraintCount)
    (multiplierCount : multipliers.length = constraintCount) :
    primal.lagrangian point sides multipliers =
      dot primal.c point + dot multipliers sides -
        dot (leftHandSides primal.dual.a multipliers) point := by
  have columns :
      leftHandSides primal.dual.a multipliers =
        leftHandSides (transpose primal.a point.length) multipliers := by
    simp [Matrices.dual, Matrices.variableCount, size.coefficientCount, pointLength]
  have exchanged :
      dot multipliers (leftHandSides primal.a point) =
        dot (leftHandSides primal.dual.a multipliers) point := by
    rw [columns]
    apply dot_leftHandSides
    · intro row member
      rw [size.rowWidth row member, pointLength]
    · rw [multiplierCount, size.rowCount]
  rw [lagrangian, dot_subtract _ (by simp [sideCount, size.rowCount]), exchanged]
  ring

/--
Dual feasibility asks for bounds on the multipliers and on the columns, one
apart from the other.
-/
theorem feasible_dual_iff
    {primal : Matrices}
    {constraintCount variableCount : Nat}
    (size : primal.HasSize constraintCount variableCount)
    {multipliers : List Int}
    (multiplierCount : multipliers.length = constraintCount) :
    primal.dual.Feasible multipliers ↔
      (∀ sides, Relation.HoldEach primal.eqin sides primal.b →
        primal.direction.NotBetter (dot multipliers sides)
          (dot multipliers primal.b)) ∧
      ∀ point, point.length = variableCount → Nonnegative point →
        primal.direction.NotBetter (dot primal.c point)
          (dot (leftHandSides primal.dual.a multipliers) point) := by
  have restrictionsIff :
      primal.dual.Admits multipliers ↔ _ :=
    Restriction.holdEach_ofConstraint_iff
      (by rw [size.boundCount, size.relationCount])
      (by rw [multiplierCount, size.relationCount])
  have constraintsIff :
      Relation.HoldEach primal.dual.eqin
        (leftHandSides primal.dual.a multipliers) primal.dual.b ↔ _ :=
    Relation.holdEach_dualRelation_iff
      (by rw [length_leftHandSides, size.dual.rowCount, size.coefficientCount])
  rw [size.coefficientCount] at constraintsIff
  rw [← restrictionsIff, ← constraintsIff]
  constructor
  · intro feasible
    exact ⟨feasible.restrictions, feasible.constraints⟩
  · rintro ⟨restrictions, constraints⟩
    exact ⟨constraints, restrictions⟩

/--
The dual's objective bounds the Lagrangian exactly at the dual feasible points.
-/
theorem feasible_dual_iff_bounds_lagrangian
    {primal : Matrices}
    {constraintCount variableCount : Nat}
    (size : primal.HasSize constraintCount variableCount)
    {multipliers : List Int}
    (multiplierCount : multipliers.length = constraintCount) :
    primal.dual.Feasible multipliers ↔
      ∀ point sides,
        point.length = variableCount → Nonnegative point →
        Relation.HoldEach primal.eqin sides primal.b →
        primal.direction.NotBetter
          (primal.lagrangian point sides multipliers)
          (dot primal.dual.c multipliers) := by
  have objective : dot primal.dual.c multipliers = dot multipliers primal.b :=
    dot_comm primal.b multipliers
  rw [feasible_dual_iff size multiplierCount, objective]
  constructor
  · rintro ⟨multipliersBounded, columnsBounded⟩ point sides pointLength
      nonnegative hold
    have sideCount : sides.length = constraintCount := by
      rw [hold.length_left, size.relationCount]
    have together := (columnsBounded point pointLength nonnegative).add
      (multipliersBounded sides hold)
    rw [lagrangian_eq size pointLength sideCount multiplierCount,
      ← Direction.notBetter_add_right_iff
        (dot (leftHandSides primal.dual.a multipliers) point), sub_add_cancel,
      add_comm (dot multipliers primal.b)]
    exact together
  · intro bounded
    have relationsAllowBounds : Relation.HoldEach primal.eqin primal.b primal.b :=
      Relation.HoldEach.refl (by rw [size.boundCount, size.relationCount])
    constructor
    · intro sides hold
      have sideCount : sides.length = constraintCount := by
        rw [hold.length_left, size.relationCount]
      have probed := bounded (List.replicate variableCount 0) sides (by simp)
        (nonnegative_replicate_zero variableCount) hold
      rw [lagrangian_eq size (by simp) sideCount multiplierCount] at probed
      simpa using probed
    · intro point pointLength nonnegative
      have probed :=
        bounded point primal.b pointLength nonnegative relationsAllowBounds
      rw [lagrangian_eq size pointLength size.boundCount multiplierCount,
        ← Direction.notBetter_add_right_iff
          (dot (leftHandSides primal.dual.a multipliers) point), sub_add_cancel,
        add_comm (dot multipliers primal.b),
        Direction.notBetter_add_right_iff] at probed
      exact probed

/--
At left-hand sides that the constraints allow, the Lagrangian is the objective.
-/
theorem lagrangian_leftHandSides
    (primal : Matrices)
    (point multipliers : List Int) :
    primal.lagrangian point (leftHandSides primal.a point) multipliers =
      dot primal.c point := by
  rw [lagrangian, dot_subtract _ rfl, sub_self, add_zero]

/--
The dual of a problem is its Lagrangian dual: of the sizes exchanged and of the
opposite direction, its feasible points are those at which its objective bounds
the Lagrangian. So the objective at a feasible point of the problem is never
better than the dual's objective at a feasible point of the dual.
-/
theorem dual_isLagrangian
    {primal : Matrices}
    {constraintCount variableCount : Nat}
    (size : primal.HasSize constraintCount variableCount) :
    (primal.dual.HasSize variableCount constraintCount ∧
      (∃ restrictions,
        primal.dual.varConstr = some restrictions ∧
        restrictions.length = constraintCount) ∧
      primal.dual.direction = primal.direction.opposite) ∧
    (∀ multipliers, multipliers.length = constraintCount →
      (primal.dual.Feasible multipliers ↔
        ∀ point sides,
          point.length = variableCount → Nonnegative point →
          Relation.HoldEach primal.eqin sides primal.b →
          primal.direction.NotBetter
            (primal.lagrangian point sides multipliers)
            (dot primal.dual.c multipliers))) ∧
    ∀ point multipliers,
      point.length = variableCount → Nonnegative point →
      Relation.HoldEach primal.eqin (leftHandSides primal.a point) primal.b →
      multipliers.length = constraintCount → primal.dual.Feasible multipliers →
      primal.direction.NotBetter (dot primal.c point)
        (dot primal.dual.c multipliers) := by
  refine ⟨⟨size.dual, ⟨_, rfl, by simp [size.relationCount]⟩, rfl⟩, ?_, ?_⟩
  · intro multipliers multiplierCount
    exact feasible_dual_iff_bounds_lagrangian size multiplierCount
  · intro point multipliers pointLength nonnegative allowed multiplierCount feasible
    rw [← lagrangian_leftHandSides primal point multipliers]
    exact (feasible_dual_iff_bounds_lagrangian size multiplierCount).mp feasible
      point _ pointLength nonnegative allowed

/--
Three variables, two constraints with different relations, and a dual point
below zero.
-/
theorem dual_isLagrangian_mixedRelations :
    let primal : Matrices :=
      ⟨[[1, 0, 3], [-2, 4, 0]], [5, 6], [1, 1, 1], [.eq, .ge], .min, none⟩
    primal.HasSize 2 3 ∧
      Relation.HoldEach primal.eqin (leftHandSides primal.a [2, 3, 1]) primal.b ∧
      primal.dual.Feasible [-1, 0] ∧
      primal.direction.NotBetter (dot primal.c [2, 3, 1])
        (dot primal.dual.c [-1, 0]) := by
  intro primal
  have size : primal.HasSize 2 3 := ⟨rfl, rfl, rfl, by decide, rfl⟩
  have allowed :
      Relation.HoldEach primal.eqin (leftHandSides primal.a [2, 3, 1]) primal.b :=
    .cons (by decide) (.cons (by decide) .nil)
  have feasible : primal.dual.Feasible [-1, 0] :=
    ⟨.cons (by decide) (.cons (by decide) (.cons (by decide) .nil)),
      .cons (by decide) (.cons (by decide) .nil)⟩
  exact ⟨size, allowed, feasible,
    (dual_isLagrangian size).2.2 [2, 3, 1] [-1, 0] rfl (by decide) allowed rfl
      feasible⟩

end Matrices

end LinearProgram
