import LinearProgram.Formulation.Assembly
import LinearProgram.Proofs.Line.Entries
import Mathlib.Order.Bounds.Basic

namespace LinearProgram

/-!
# The dimensions of a problem

The width of a line is the index of its last variable. A problem has dimensions
exactly if every line has a width (`exists_dimensionsOf_iff`), and the greatest of
them is the number of its variables (`isGreatest_of_dimensionsOf`).
-/

/-- The last variable among the tokens of a line. -/
def lastVariable? (tokens : List Token) : Option Token :=
  (tokens.filter fun token => token.kind == .variable).getLast?

/-- The last variable of a line has the given index. -/
def HasWidth (line : String) (width : Nat) : Prop :=
  ∃ token, lastVariable? (tokenize line) = some token ∧ token.HasIndex width

theorem HasWidth.unique
    {line : String}
    {first second : Nat}
    (isFirst : HasWidth line first)
    (isSecond : HasWidth line second) :
    first = second := by
  obtain ⟨token, last, number, _⟩ := isFirst
  obtain ⟨other, otherLast, otherNumber, _⟩ := isSecond
  rw [last] at otherLast
  cases otherLast
  rw [← number, ← otherNumber]

theorem mem_of_lastVariable?
    {tokens : List Token}
    {token : Token}
    (last : lastVariable? tokens = some token) :
    token ∈ tokens ∧ token.kind = .variable := by
  have member := List.mem_of_getLast? last
  rwa [List.mem_filter, beq_iff_eq] at member

theorem exists_lastVariable?
    {tokens : List Token}
    {token : Token}
    (member : token ∈ tokens)
    (isVariable : token.kind = .variable) :
    ∃ last, lastVariable? tokens = some last := by
  rw [← Option.isSome_iff_exists, lastVariable?, List.getLast?_isSome]
  apply List.ne_nil_of_mem (List.mem_filter.mpr ⟨member, ?_⟩)
  rw [beq_iff_eq, isVariable]

/-- The last index of a line is its width, which is zero if there is no variable. -/
theorem lastIndex_eq_ok_iff
    {line : String}
    {width : Nat}
    (positive : width ≠ 0) :
    lastIndex (variableTexts (tokenize line)) = .ok width ↔ HasWidth line width := by
  rw [lastIndex, variableTexts, List.getLast?_map, ← lastVariable?, HasWidth]
  cases last : lastVariable? (tokenize line) with
  | none =>
      simpa using positive.symm
  | some token =>
      obtain ⟨member, isVariable⟩ := mem_of_lastVariable? last
      simp [variableIndex_eq_ok_iff member isVariable]

namespace Formulation

/-- A line is measured by its last variable, whose index may not be zero. -/
theorem lineWidth_eq_ok_iff
    (number : Nat)
    (line : String)
    (width : Nat) :
    lineWidth number line = .ok width ↔ HasWidth line width ∧ width ≠ 0 := by
  rw [and_comm, ← and_congr_right lastIndex_eq_ok_iff, lineWidth, bind_eq_ok_iff]
  simp only [VariableSet.ofTokens, bind_eq_ok_iff]
  constructor
  · rintro ⟨_, ⟨index, found, isSet⟩, isWidth⟩
    cases isSet
    split at isWidth
    · cases isWidth
    · next positive =>
        cases isWidth
        exact ⟨positive, found⟩
  · rintro ⟨positive, found⟩
    refine ⟨_, ⟨width, found, rfl⟩, ?_⟩
    rw [if_neg positive]
    rfl

/-- A line without a width has no variable, or an index that cannot be read. -/
theorem failsOnly_lineWidth (number : Nat) (line : String) :
    FailsOnly Failure.Unbuildable (lineWidth number line) := by
  rw [lineWidth]
  refine .bind (.bind ?_ fun _ _ => .ok _) fun _ _ => ?_
  · rw [lastIndex]
    split
    · exact failsOnly_variableIndex _
    · exact .ok 0
  · split
    · exact .error (.noVariables number)
    · exact .ok _

/-- All lines are measured, or none is. -/
theorem lineWidths_eq_ok_iff
    {lines : List String}
    {widths : List Nat} :
    lineWidths lines = .ok widths ↔
      List.Forall₂ (fun line width => HasWidth line width ∧ width ≠ 0) lines widths :=
  mapM_zipIdx_eq_ok_iff lineWidth_eq_ok_iff 0

/-- The dimensions are the number of constraints and the greatest width. -/
theorem dimensionsOf_eq_ok_iff
    {lines : List String}
    {dimensions : Dimensions} :
    dimensionsOf lines = .ok dimensions ↔
      ∃ widths, lineWidths lines = .ok widths ∧
        dimensions = ⟨lines.length - 1, widths.foldl max 0⟩ := by
  rw [dimensionsOf, bind_eq_ok_iff]
  refine exists_congr fun widths => and_congr_right fun _ => ?_
  constructor
  · intro same
    cases same
    rfl
  · rintro rfl
    rfl

theorem constraintCount_of_dimensionsOf
    {lines : List String}
    {dimensions : Dimensions}
    (success : dimensionsOf lines = .ok dimensions) :
    dimensions.constraintCount = lines.length - 1 := by
  obtain ⟨_, _, rfl⟩ := dimensionsOf_eq_ok_iff.mp success
  rfl

/-- The number of variables is the greatest width of a line. -/
theorem isGreatest_of_dimensionsOf
    {lines : List String}
    {dimensions : Dimensions}
    (success : dimensionsOf lines = .ok dimensions)
    (filled : lines ≠ []) :
    IsGreatest {width | ∃ line ∈ lines, HasWidth line width} dimensions.variableCount ∧
      dimensions.variableCount ≠ 0 := by
  obtain ⟨widths, found, rfl⟩ := dimensionsOf_eq_ok_iff.mp success
  have each := lineWidths_eq_ok_iff.mp found
  have someWidth : widths ≠ [] := by
    rw [← List.length_pos_iff, ← each.length_eq, List.length_pos_iff]
    exact filled
  obtain ⟨greatest, isMax⟩ := Option.isSome_iff_exists.mp
    (List.isSome_max?_of_ne_nil someWidth)
  obtain ⟨member, bound⟩ := List.max?_eq_some_iff.mp isMax
  have isFold : widths.foldl max 0 = greatest := by
    rw [List.foldl_max, isMax, Option.getD_some, Nat.zero_max]
  obtain ⟨widest, isLine, width, positive⟩ := exists_mem_of_forall₂ each member
  dsimp only
  rw [isFold]
  refine ⟨⟨⟨widest, isLine, width⟩, ?_⟩, positive⟩
  rintro other ⟨line, isOther, otherWidth⟩
  obtain ⟨found, inWidths, foundWidth, _⟩ := exists_mem_of_forall₂ each.flip isOther
  rw [otherWidth.unique foundWidth]
  exact bound found inWidths

/-- There are dimensions exactly if every line has a width. -/
theorem exists_dimensionsOf_iff {lines : List String} :
    (∃ dimensions, dimensionsOf lines = .ok dimensions) ↔
      ∀ line ∈ lines, ∃ width, HasWidth line width ∧ width ≠ 0 := by
  rw [← exists_forall₂_iff]
  simp only [dimensionsOf_eq_ok_iff, lineWidths_eq_ok_iff]
  constructor
  · rintro ⟨_, widths, each, _⟩
    exact ⟨widths, each⟩
  · rintro ⟨widths, each⟩
    exact ⟨_, widths, each, rfl⟩

theorem failsOnly_dimensionsOf (lines : List String) :
    FailsOnly Failure.Unbuildable (dimensionsOf lines) :=
  (FailsOnly.mapM fun _ _ => failsOnly_lineWidth _ _).bind fun _ _ => .ok _

end Formulation

end LinearProgram
