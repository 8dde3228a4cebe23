import LinearProgram.Problem.Dual
import Mathlib.Data.List.Forall2

namespace LinearProgram

/-!
# Constraints in another order

An order lists the positions of the items of a list in the order in which they are
taken. Rearranging the constraints of a problem rearranges the variables of its dual
and changes nothing else of it (`Matrices.dual_rearrangeConstraints`).
-/

/-- The items of a list in the order in which their positions are given. -/
def rearrange (order : List Nat) (items : List α) : List α :=
  order.filterMap fun position => items[position]?

variable (order : List Nat)

/-- Items may be changed before or after they are rearranged. -/
theorem rearrange_map (f : α → β) (items : List α) :
    rearrange order (items.map f) = (rearrange order items).map f := by
  simp only [rearrange, List.getElem?_map, List.map_filterMap]

/-- The order in which items stand leaves them where they are. -/
theorem rearrange_range (items : List α) :
    rearrange (List.range items.length) items = items := by
  induction items with
  | nil =>
      rfl
  | cons item items inductionHypothesis =>
      rw [rearrange, List.length_cons, List.range_succ_eq_map, List.filterMap_cons,
        List.filterMap_map]
      exact congrArg (item :: ·) inductionHypothesis

/-- In an order of all positions no item is lost and none is repeated. -/
theorem rearrange_perm
    {order : List Nat}
    {items : List α}
    (isOrder : order.Perm (List.range items.length)) :
    (rearrange order items).Perm items := by
  have moved : (rearrange order items).Perm (rearrange (List.range items.length) items) :=
    isOrder.filterMap _
  rwa [rearrange_range] at moved

/-- Related lists have related items at each position, or none. -/
theorem rel_getElem?
    {related : α → β → Prop}
    {items : List α}
    {others : List β}
    (each : List.Forall₂ related items others)
    (position : Nat) :
    Option.Rel related items[position]? others[position]? := by
  induction each generalizing position with
  | nil =>
      exact .none
  | cons head _ inductionHypothesis =>
      cases position with
      | zero =>
          exact .some head
      | succ before =>
          exact inductionHypothesis before

/-- Items that are related one by one are so in any order. -/
theorem forall₂_rearrange
    {related : α → β → Prop}
    {items : List α}
    {others : List β}
    (each : List.Forall₂ related items others) :
    List.Forall₂ related (rearrange order items) (rearrange order others) := by
  refine List.rel_filterMap (R := Eq) ?_ (List.forall₂_refl order)
  rintro position _ rfl
  exact rel_getElem? each position

/-- Rearranging rows rearranges the entries of each column. -/
theorem transpose_rearrange (rows : List (List Int)) (columns : Nat) :
    transpose (rearrange order rows) columns =
      (transpose rows columns).map (rearrange order) := by
  rw [transpose, transpose, List.map_map]
  exact List.map_congr_left fun column _ => (rearrange_map order _ rows).symm

namespace Matrices

variable (matrices : Matrices)

/-- The problem with its constraints in another order. -/
def rearrangeConstraints : Matrices :=
  { matrices with
    a := rearrange order matrices.a
    b := rearrange order matrices.b
    eqin := rearrange order matrices.eqin }

/-- The problem with its variables in another order. -/
def rearrangeVariables : Matrices :=
  { matrices with
    a := matrices.a.map (rearrange order)
    c := rearrange order matrices.c
    varConstr := matrices.varConstr.map (rearrange order) }

/-- The variables of the dual are in the order of the constraints. -/
theorem dual_rearrangeConstraints :
    (matrices.rearrangeConstraints order).dual = matrices.dual.rearrangeVariables order := by
  simp only [dual, rearrangeConstraints, rearrangeVariables, Matrices.variableCount,
    transpose_rearrange, Option.map_some, rearrange_map]

/-- The row, the right-hand side and the relation of the constraint at a position. -/
def constraint? (position : Nat) : Option (List Int × Int × Relation) := do
  let row ← matrices.a[position]?
  let bound ← matrices.b[position]?
  let relation ← matrices.eqin[position]?
  return (row, bound, relation)

end Matrices

end LinearProgram
