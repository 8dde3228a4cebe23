import LinearProgram.Proofs.Dump.RoundTrip
import Mathlib.Data.List.GetD

namespace LinearProgram

/-!
# Dumps of problems and of their duals

The dual of a problem with constraints can be dumped if the problem can. The
dump of a primal problem with variables is not mistaken for that of a dual, for
want of restrictions.
-/

namespace Matrices

variable {matrices : Matrices}

/-- The dual of a problem with a constraint has columns. -/
theorem Representable.dual
    (representable : matrices.Representable)
    (someConstraint : matrices.b ≠ []) :
    matrices.dual.Representable where
  size := by
    have size := representable.size.dual
    rw [show matrices.dual.b = matrices.c from rfl, show matrices.dual.c = matrices.b from rfl]
    exact size
  restrictionCount := by
    intro restrictions isRestrictions
    cases isRestrictions
    rw [List.length_map, representable.size.relationCount]
    rfl
  rowsVisible := .inr someConstraint

/-- The entries of a transpose are entries of the rows, or zeros that fill them up. -/
theorem forall_mem_transpose
    {rows : List (List Int)}
    {holds : Int → Prop}
    (entries : ∀ row ∈ rows, ∀ entry ∈ row, holds entry)
    (zero : holds 0)
    (columns : Nat) :
    ∀ row ∈ transpose rows columns, ∀ entry ∈ row, holds entry := by
  intro column isColumn entry isEntry
  obtain ⟨position, _, rfl⟩ := List.mem_map.mp isColumn
  obtain ⟨row, isRow, rfl⟩ := List.mem_map.mp isEntry
  rcases Nat.lt_or_ge position row.length with within | beyond
  · rw [List.getD_eq_getElem row 0 within]
    exact entries row isRow _ (List.getElem_mem within)
  · rwa [List.getD_eq_default row 0 beyond]

/-- The numbers of the dual are those of the problem. -/
theorem FitsWords.dual
    (fits : matrices.FitsWords)
    (countable : matrices.eqin.length ≤ Numeral.maxIndex) :
    matrices.dual.FitsWords where
  coefficients := forall_mem_transpose fits.coefficients (by decide) _
  bounds := fits.objective
  objective := fits.bounds
  restrictionPositions := by
    intro restrictions isRestrictions
    cases isRestrictions
    rwa [List.length_map]

end Matrices

namespace Dump

variable {matrices : Matrices}

/-- Parts that do not fit together are refused for their shape. -/
theorem ofCharacters_eq_shape
    {text : List Char}
    {dual : Bool}
    {error : ShapeError}
    (misfit : shapeError? matrices = some error)
    (a : rowsOfSection .a text = .ok matrices.a)
    (b : vectorOfSection .b text = .ok matrices.b)
    (c : vectorOfSection .c text = .ok matrices.c)
    (codes : vectorOfSection .eqin text = .ok matrices.eqinCodes)
    (minMax : vectorOfSection .minMax text = .ok matrices.minMax)
    (restrictions : restrictionsOf dual text = .ok matrices.varConstr) :
    ofCharacters text dual = .error (.shape error) := by
  have eqin : matrices.eqinCodes.mapM (decode .eqin Relation.ofCode?) = .ok matrices.eqin :=
    (mapM_decode_eq_ok_iff relation_ofCode?_iff).mpr rfl
  have direction : directionOfSection text = .ok matrices.direction :=
    directionOfSection_eq_ok_iff.mpr minMax
  simp only [ofCharacters, a, b, c, codes, restrictions, direction, eqin, bind, Except.bind,
    misfit]
  rfl

/-- Restrictions that differ in number from the variables are the only misfit. -/
theorem shapeError?_of_restrictionCount
    (size : matrices.HasSize matrices.b.length matrices.c.length)
    {restrictions : List Restriction}
    (isRestrictions : matrices.varConstr = some restrictions)
    (misfit : restrictions.length ≠ matrices.c.length) :
    shapeError? matrices =
      some (.restrictionCount restrictions.length matrices.c.length) := by
  have noMisfit : firstMisfit? matrices.c.length 1 matrices.a = none :=
    firstMisfit?_eq_none_iff.mpr size.rowWidth
  simp [shapeError?, size.rowCount, size.relationCount, noMisfit, isRestrictions, misfit]

/-- The dump of a primal problem with variables is not read as that of a dual. -/
theorem read_write_as_dual
    (representable : matrices.Representable)
    (fits : matrices.FitsWords)
    (primal : matrices.varConstr = none)
    (someVariable : matrices.c ≠ []) :
    read (write matrices) true =
      .error (.shape (.restrictionCount 0 matrices.c.length)) := by
  obtain ⟨a, b, c, codes, minMax⟩ := sections_characters representable fits
  have restrictions : restrictionsOf true (characters matrices) = .ok (some []) := by
    rw [restrictionsOf_characters, primal]
    rfl
  obtain ⟨rowCount, boundCount, relationCount, rowWidth, coefficientCount⟩ :=
    representable.size
  let asDual : Matrices := { matrices with varConstr := some [] }
  have size : asDual.HasSize asDual.b.length asDual.c.length :=
    ⟨rowCount, boundCount, relationCount, rowWidth, coefficientCount⟩
  have isEmpty : asDual.varConstr = some [] := rfl
  have misfit : shapeError? asDual = some (.restrictionCount 0 matrices.c.length) :=
    shapeError?_of_restrictionCount size isEmpty
      (Nat.ne_of_lt (List.length_pos_of_ne_nil someVariable))
  rw [read, write, String.toList_ofList]
  exact ofCharacters_eq_shape misfit a b c codes minMax restrictions

end Dump

end LinearProgram
