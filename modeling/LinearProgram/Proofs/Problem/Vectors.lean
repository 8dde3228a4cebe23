import LinearProgram.Problem.Dual
import Mathlib.Tactic.Ring

namespace LinearProgram

/-!
# Vectors and the products of rows

Vectors are lists of integers. The product of a vector with all rows of a
matrix may be taken along the rows or, through the transpose, along the columns
(`dot_leftHandSides`).
-/

/-- The sum of the products of the entries at the same positions. -/
def dot : List Int → List Int → Int
  | first :: rest, other :: others => first * other + dot rest others
  | _, _ => 0

/-- The differences of the entries at the same positions. -/
def subtract (minuend subtrahend : List Int) : List Int :=
  List.zipWith (· - ·) minuend subtrahend

/-- No entry of a vector is negative. -/
def Nonnegative (vector : List Int) : Prop :=
  ∀ entry ∈ vector, 0 ≤ entry

instance (vector : List Int) : Decidable (Nonnegative vector) :=
  inferInstanceAs (Decidable (∀ entry ∈ vector, 0 ≤ entry))

/-- What each row amounts to at a point. -/
def leftHandSides (rows : List (List Int)) (point : List Int) : List Int :=
  rows.map fun row => dot row point

@[simp] theorem dot_nil (vector : List Int) : dot [] vector = 0 := by
  simp [dot]

@[simp] theorem dot_cons_cons (first other : Int) (rest others : List Int) :
    dot (first :: rest) (other :: others) = first * other + dot rest others := by
  simp [dot]

@[simp] theorem length_leftHandSides (rows : List (List Int)) (point : List Int) :
    (leftHandSides rows point).length = rows.length := by
  simp [leftHandSides]

/-- The order of the factors does not matter. -/
theorem dot_comm (left right : List Int) : dot left right = dot right left := by
  induction left generalizing right with
  | nil =>
      cases right <;> simp [dot]
  | cons first rest inductionHypothesis =>
      cases right with
      | nil =>
          simp [dot]
      | cons other others =>
          rw [dot_cons_cons, dot_cons_cons, inductionHypothesis, mul_comm]

/-- The origin makes every product vanish. -/
@[simp] theorem dot_replicate_zero (vector : List Int) (count : Nat) :
    dot vector (List.replicate count 0) = 0 := by
  induction vector generalizing count with
  | nil =>
      simp
  | cons first rest inductionHypothesis =>
      cases count with
      | zero =>
          simp [dot]
      | succ count =>
          simp [List.replicate_succ, inductionHypothesis]

/-- No entry of the origin is negative. -/
theorem nonnegative_replicate_zero (count : Nat) :
    Nonnegative (List.replicate count 0) := by
  intro entry member
  rw [List.eq_of_mem_replicate member]

theorem nonnegative_cons {first : Int} {rest : List Int} :
    Nonnegative (first :: rest) ↔ 0 ≤ first ∧ Nonnegative rest := by
  simp [Nonnegative]

/-- The product with a difference is the difference of the products. -/
theorem dot_subtract
    (vector : List Int)
    {minuend subtrahend : List Int}
    (sameLength : minuend.length = subtrahend.length) :
    dot vector (subtract minuend subtrahend) =
      dot vector minuend - dot vector subtrahend := by
  induction minuend generalizing vector subtrahend with
  | nil =>
      obtain rfl : subtrahend = [] := List.eq_nil_of_length_eq_zero sameLength.symm
      cases vector <;> simp [subtract, dot]
  | cons first rest inductionHypothesis =>
      cases subtrahend with
      | nil =>
          cases sameLength
      | cons other others =>
          cases vector with
          | nil =>
              simp
          | cons entry entries =>
              have restProduct :=
                inductionHypothesis entries (Nat.succ.inj sameLength)
              simp only [subtract, List.zipWith_cons_cons,
                dot_cons_cons] at restProduct ⊢
              rw [restProduct]
              ring

/--
A vector whose entries combine those of two others has a product that combines
theirs.
-/
theorem dot_map_combination
    (factor : Int)
    (scaled added : Nat → Int)
    (positions : List Nat)
    (vector : List Int) :
    dot (positions.map fun position => scaled position * factor + added position)
        vector =
      factor * dot (positions.map scaled) vector +
        dot (positions.map added) vector := by
  induction positions generalizing vector with
  | nil =>
      simp
  | cons position rest inductionHypothesis =>
      cases vector with
      | nil =>
          simp [dot]
      | cons entry entries =>
          simp only [List.map_cons, dot_cons_cons, inductionHypothesis]
          ring

/-- The entries of a row at all positions of the row make up the row. -/
theorem map_getD_range_length (row : List Int) :
    (List.range row.length).map (fun position => row.getD position 0) = row := by
  apply List.ext_getElem
  · simp
  · intro position inRange inRow
    simp [inRow]

/--
The double sum of coefficients, multipliers and coordinates may be taken row by
row or column by column.
-/
theorem dot_leftHandSides
    {rows : List (List Int)}
    {multipliers point : List Int}
    (rowWidth : ∀ row ∈ rows, row.length = point.length)
    (multiplierCount : multipliers.length = rows.length) :
    dot multipliers (leftHandSides rows point) =
      dot (leftHandSides (transpose rows point.length) multipliers) point := by
  simp only [leftHandSides, transpose, List.map_map, Function.comp_def]
  induction rows generalizing multipliers with
  | nil =>
      obtain rfl : multipliers = [] := List.eq_nil_of_length_eq_zero multiplierCount
      simp [dot_comm _ point, List.map_const']
  | cons row rest inductionHypothesis =>
      cases multipliers with
      | nil =>
          cases multiplierCount
      | cons multiplier others =>
          have rowShape :
              (List.range point.length).map (fun position => row.getD position 0) =
                row := by
            rw [← rowWidth row List.mem_cons_self]
            exact map_getD_range_length row
          have restProducts := inductionHypothesis
            (fun other member => rowWidth other (List.mem_cons_of_mem _ member))
            (Nat.succ.inj multiplierCount)
          simp only [List.map_cons, dot_cons_cons]
          rw [dot_map_combination, rowShape, restProducts]

end LinearProgram
