import LinearProgram.Formulation.Basic
import LinearProgram.Proofs.Formulation.Dimensions

namespace LinearProgram

/-!
# Two ways to the width of a problem

The variables of the widest line are found by keeping the first line that is wider
than all before it, the width of a problem by comparing the widths of all lines,
each of which has to have one. Where both succeed they agree
(`widestVariables_agrees`): the problem is as wide as its widest line, and a line
without a width is the only thing that the search for the widest line puts up with.
-/

/-- A line that speaks of no variables: it has none, or its last one has index zero. -/
def Widthless (line : String) : Prop :=
  (∀ token ∈ tokenize line, token.kind ≠ .variable) ∨ HasWidth line 0

theorem lastVariable?_eq_none_iff {tokens : List Token} :
    lastVariable? tokens = none ↔ ∀ token ∈ tokens, token.kind ≠ .variable := by
  rw [lastVariable?, List.getLast?_eq_none_iff, List.filter_eq_nil_iff]
  simp only [beq_iff_eq]

/-- A line with a width speaks of variables. -/
theorem HasWidth.not_widthless
    {line : String}
    {width : Nat}
    (hasWidth : HasWidth line width)
    (positive : width ≠ 0) :
    ¬ Widthless line := by
  rintro (noVariable | isZero)
  · obtain ⟨token, last, _⟩ := hasWidth
    obtain ⟨member, isVariable⟩ := mem_of_lastVariable? last
    exact noVariable token member isVariable
  · exact positive (hasWidth.unique isZero)

/-- The last index is zero exactly in a line that speaks of no variables. -/
theorem lastIndex_eq_zero_iff {line : String} :
    lastIndex (variableTexts (tokenize line)) = .ok 0 ↔ Widthless line := by
  rw [lastIndex, variableTexts, List.getLast?_map, ← lastVariable?, Widthless, HasWidth,
    ← lastVariable?_eq_none_iff]
  cases last : lastVariable? (tokenize line) with
  | none =>
      simp
  | some token =>
      obtain ⟨member, isVariable⟩ := mem_of_lastVariable? last
      simp [variableIndex_eq_ok_iff member isVariable]

/-- The variables of a line are read if its last index is. -/
theorem ofTokens_eq_ok_iff
    {tokens : List Token}
    {set : VariableSet} :
    VariableSet.ofTokens tokens = .ok set ↔
      lastIndex (variableTexts tokens) = .ok set.width ∧
        set.existing = (variableTexts tokens).map Text.lowercase := by
  rw [VariableSet.ofTokens, bind_eq_ok_iff]
  constructor
  · rintro ⟨width, found, isSet⟩
    cases isSet
    exact ⟨found, rfl⟩
  · obtain ⟨existing, width⟩ := set
    rintro ⟨found, rfl⟩
    exact ⟨width, found, rfl⟩

/-- A set that is not empty has the width of its line. -/
theorem hasWidth_of_ofTokens
    {line : String}
    {set : VariableSet}
    (read : VariableSet.ofTokens (tokenize line) = .ok set)
    (positive : set.width ≠ 0) :
    HasWidth line set.width :=
  (lastIndex_eq_ok_iff positive).mp (ofTokens_eq_ok_iff.mp read).1

theorem exists_ofTokens_of_hasWidth
    {line : String}
    {width : Nat}
    (hasWidth : HasWidth line width)
    (positive : width ≠ 0) :
    ∃ set, VariableSet.ofTokens (tokenize line) = .ok set ∧ set.width = width :=
  ⟨⟨_, width⟩, ofTokens_eq_ok_iff.mpr ⟨(lastIndex_eq_ok_iff positive).mpr hasWidth, rfl⟩, rfl⟩

/-- The first of some elements with the greatest measure. -/
structure FirstGreatest (measure : α → Nat) (items : List α) (item : α) : Prop where
  split : ∃ before behind, items = before ++ item :: behind ∧
    ∀ earlier ∈ before, measure earlier < measure item
  greatest : ∀ other ∈ items, measure other ≤ measure item

namespace FirstGreatest

variable {measure : α → Nat} {items : List α} {item first second : α}

/-- A smaller element in front of all others is passed over. -/
theorem cons_of_lt
    (isFirst : FirstGreatest measure (second :: items) item)
    (smaller : measure first < measure second) :
    FirstGreatest measure (first :: second :: items) item := by
  have bound := isFirst.greatest second List.mem_cons_self
  obtain ⟨before, behind, split, earlier⟩ := isFirst.split
  refine ⟨⟨first :: before, behind, by rw [split, List.cons_append], ?_⟩, ?_⟩
  · exact List.forall_mem_cons.mpr ⟨by omega, earlier⟩
  · exact List.forall_mem_cons.mpr ⟨by omega, isFirst.greatest⟩

/-- An element that is no greater than one in front of it is passed over. -/
theorem insert_of_le
    (isFirst : FirstGreatest measure (first :: items) item)
    (notGreater : measure second ≤ measure first) :
    FirstGreatest measure (first :: second :: items) item := by
  obtain ⟨greatest, others⟩ := List.forall_mem_cons.mp isFirst.greatest
  refine ⟨?_, List.forall_mem_cons.mpr
    ⟨greatest, List.forall_mem_cons.mpr ⟨by omega, others⟩⟩⟩
  obtain ⟨before, behind, split, earlier⟩ := isFirst.split
  cases before with
  | nil =>
      cases split
      exact ⟨[], second :: items, rfl, by simp⟩
  | cons head rest =>
      cases split
      rw [List.forall_mem_cons] at earlier
      refine ⟨first :: second :: rest, behind, rfl, ?_⟩
      simp only [List.forall_mem_cons]
      exact ⟨earlier.1, by omega, earlier.2⟩

end FirstGreatest

namespace Formulation

/-- The wider of two sets of variables, the first of them if they are equally wide. -/
def wider (widest set : VariableSet) : VariableSet :=
  if widest.width < set.width then set else widest

/-- The widest set is kept from line to line, once the variables of all lines are read. -/
theorem widestFrom_eq_mapM (widest : VariableSet) (lines : List String) :
    widestFrom widest lines =
      (lines.mapM fun line => VariableSet.ofTokens (tokenize line)).map
        (List.foldl wider widest) := by
  induction lines generalizing widest with
  | nil =>
      rfl
  | cons line rest inductionHypothesis =>
      rw [widestFrom, List.mapM_cons]
      cases VariableSet.ofTokens (tokenize line) with
      | error failure =>
          rfl
      | ok set =>
          change widestFrom (wider widest set) rest = _
          rw [inductionHypothesis]
          cases rest.mapM fun line => VariableSet.ofTokens (tokenize line) <;> rfl

/-- The set that has been kept is the first of the widest. -/
theorem foldl_wider_firstGreatest (widest : VariableSet) (sets : List VariableSet) :
    FirstGreatest VariableSet.width (widest :: sets) (sets.foldl wider widest) := by
  induction sets generalizing widest with
  | nil =>
      exact ⟨⟨[], [], rfl, by simp⟩, by simp⟩
  | cons set rest inductionHypothesis =>
      rw [List.foldl_cons]
      by_cases isWider : widest.width < set.width
      · rw [wider, if_pos isWider]
        exact (inductionHypothesis set).cons_of_lt isWider
      · rw [wider, if_neg isWider]
        exact (inductionHypothesis widest).insert_of_le (Nat.not_lt.mp isWider)

/-- The widest set is found by comparing the sets of all lines. -/
theorem widestVariables_eq_ok_iff
    {lines : List String}
    {set : VariableSet} :
    widestVariables lines = .ok set ↔
      ∃ sets,
        List.Forall₂ (fun line set => VariableSet.ofTokens (tokenize line) = .ok set)
          lines sets ∧
        set = sets.foldl wider .empty := by
  rw [widestVariables, widestFrom_eq_mapM]
  simp only [← mapM_eq_ok_iff]
  cases lines.mapM fun line => VariableSet.ofTokens (tokenize line) <;>
    simp [Except.map, eq_comm]

/-- The search fails at the first line whose variables cannot be read. -/
theorem widestVariables_eq_error_iff
    {lines : List String}
    {failure : Failure} :
    widestVariables lines = .error failure ↔
      FirstFailure (fun line => VariableSet.ofTokens (tokenize line)) lines failure := by
  rw [widestVariables, widestFrom_eq_mapM, ← mapM_eq_error_iff]
  cases lines.mapM fun line => VariableSet.ofTokens (tokenize line) <;> simp [Except.map]

/-- The widest set, if it is not empty, is that of the first line of its width. -/
theorem firstLine_of_widestVariables
    {lines : List String}
    {set : VariableSet}
    (success : widestVariables lines = .ok set)
    (positive : set.width ≠ 0) :
    ∃ before line behind, lines = before ++ line :: behind ∧
      VariableSet.ofTokens (tokenize line) = .ok set ∧
      ∀ earlier ∈ before, ¬ HasWidth earlier set.width := by
  obtain ⟨sets, each, isWidest⟩ := widestVariables_eq_ok_iff.mp success
  have isFirst := foldl_wider_firstGreatest .empty sets
  rw [← isWidest] at isFirst
  obtain ⟨before, behind, split, earlier⟩ := isFirst.split
  cases before with
  | nil =>
      cases split
      exact absurd rfl positive
  | cons head before =>
      cases split
      obtain ⟨first, line, rest, rfl, firstEach, read⟩ := exists_split_of_forall₂ each
      refine ⟨first, line, rest, rfl, read, fun passed member hasWidth => ?_⟩
      obtain ⟨other, otherMember, otherRead⟩ := exists_mem_of_forall₂ firstEach.flip member
      obtain ⟨same, sameRead, sameWidth⟩ := exists_ofTokens_of_hasWidth hasWidth positive
      rw [otherRead] at sameRead
      cases sameRead
      have narrower := earlier other (List.mem_cons_of_mem _ otherMember)
      omega

/-- No line is wider than the widest set. -/
theorem le_of_widestVariables
    {lines : List String}
    {set : VariableSet}
    (success : widestVariables lines = .ok set)
    {line : String}
    (member : line ∈ lines)
    {width : Nat}
    (hasWidth : HasWidth line width) :
    width ≤ set.width := by
  by_cases positive : width ≠ 0
  · obtain ⟨sets, each, isWidest⟩ := widestVariables_eq_ok_iff.mp success
    have isFirst := foldl_wider_firstGreatest .empty sets
    rw [← isWidest] at isFirst
    obtain ⟨other, otherMember, read⟩ := exists_mem_of_forall₂ each.flip member
    obtain ⟨same, sameRead, rfl⟩ := exists_ofTokens_of_hasWidth hasWidth positive
    rw [read] at sameRead
    cases sameRead
    exact isFirst.greatest other (List.mem_cons_of_mem _ otherMember)
  · omega

/-- A line has no width if its variables cannot be read or if it speaks of none. -/
theorem lineWidth_of_error
    {number : Nat}
    {line : String}
    {failure : Failure}
    (refused : lineWidth number line = .error failure) :
    VariableSet.ofTokens (tokenize line) = .error failure ∨
      Widthless line ∧ failure = .malformedLine number .noVariables := by
  rw [lineWidth] at refused
  cases read : VariableSet.ofTokens (tokenize line) with
  | error other =>
      rw [read] at refused
      cases refused
      exact .inl rfl
  | ok set =>
      rw [read] at refused
      simp only [bind, Except.bind] at refused
      split at refused
      · next isZero =>
          cases refused
          have lastIndex := (ofTokens_eq_ok_iff.mp read).1
          rw [isZero] at lastIndex
          exact .inr ⟨lastIndex_eq_zero_iff.mp lastIndex, rfl⟩
      · cases refused

/-- The dimensions fail at the first line that has no width. -/
theorem firstLine_of_dimensionsOf
    {lines : List String}
    {failure : Failure}
    (refused : dimensionsOf lines = .error failure) :
    ∃ before line behind, lines = before ++ line :: behind ∧
      (∀ earlier ∈ before, ∃ width, HasWidth earlier width ∧ width ≠ 0) ∧
      lineWidth before.length line = .error failure := by
  have first : FirstFailure (fun numbered => lineWidth numbered.2 numbered.1)
      lines.zipIdx failure := by
    rw [← mapM_eq_error_iff]
    rw [dimensionsOf, lineWidths] at refused
    revert refused
    cases lines.zipIdx.mapM fun numbered => lineWidth numbered.2 numbered.1 with
    | error other =>
        rintro ⟨⟩
        rfl
    | ok widths =>
        rintro ⟨⟩
  obtain ⟨before, line, behind, split, earlier, blamed⟩ := first.of_zipIdx
  rw [Nat.zero_add] at blamed
  refine ⟨before, line, behind, split, fun passed member => ?_, blamed⟩
  obtain ⟨number, width, hasWidth⟩ := earlier passed member
  exact ⟨width, (lineWidth_eq_ok_iff _ _ _).mp hasWidth⟩

/-- The variables of the first line that is as wide as a problem, and the names of all. -/
structure OfFirstWidest
    (lines : List String)
    (width : Nat)
    (set : VariableSet) : Prop where
  firstLine : ∃ before line behind, lines = before ++ line :: behind ∧
    HasWidth line width ∧ (∀ earlier ∈ before, ¬ HasWidth earlier width) ∧
    VariableSet.ofTokens (tokenize line) = .ok set
  extended : set.extended = (List.range' 1 width).map variableName

/-- A problem that has dimensions is as wide as its widest line. -/
theorem ofFirstWidest_of_dimensionsOf
    {lines : List String}
    {dimensions : Dimensions}
    (success : dimensionsOf lines = .ok dimensions)
    (filled : lines ≠ []) :
    ∃ set, widestVariables lines = .ok set ∧
      OfFirstWidest lines dimensions.variableCount set := by
  obtain ⟨⟨⟨widest, isLine, isWidth⟩, bound⟩, positive⟩ :=
    isGreatest_of_dimensionsOf success filled
  have widths := exists_dimensionsOf_iff.mp ⟨dimensions, success⟩
  obtain ⟨sets, each⟩ :
      ∃ sets, List.Forall₂ (fun line set => VariableSet.ofTokens (tokenize line) = .ok set)
        lines sets := by
    rw [exists_forall₂_iff]
    intro line member
    obtain ⟨width, hasWidth, lineIsWide⟩ := widths line member
    obtain ⟨set, read, _⟩ := exists_ofTokens_of_hasWidth hasWidth lineIsWide
    exact ⟨set, read⟩
  have found := widestVariables_eq_ok_iff.mpr ⟨sets, each, rfl⟩
  generalize sets.foldl wider .empty = set at found
  have notNarrower := le_of_widestVariables found isLine isWidth
  have setPositive : set.width ≠ 0 := by
    omega
  obtain ⟨before, line, behind, split, read, earlier⟩ :=
    firstLine_of_widestVariables found setPositive
  have hasWidth := hasWidth_of_ofTokens read setPositive
  have sameWidth : set.width = dimensions.variableCount := by
    have notWider := bound ⟨line, by simp [split], hasWidth⟩
    omega
  rw [sameWidth] at hasWidth earlier
  refine ⟨set, found, ⟨before, line, behind, split, hasWidth, earlier, read⟩, ?_⟩
  rw [VariableSet.extended, sameWidth, List.range'_eq_map_range, List.map_map]
  refine List.map_congr_left fun position _ => ?_
  rw [Function.comp_apply, Nat.add_comm]

/-- All names are those of the variables up to the width of the problem. -/
theorem allVariables_of_ofFirstWidest
    {formulation : Formulation}
    {width : Nat}
    {set : VariableSet}
    (found : widestVariables formulation.lines = .ok set)
    (isWidest : OfFirstWidest formulation.lines width set) :
    formulation.allVariables = .ok set.extended ∧ set.extended.length = width := by
  constructor
  · rw [allVariables, found]
    rfl
  · rw [isWidest.extended, List.length_map, List.length_range']

/-- A number that is too large for the dimensions is too large for the widest set. -/
theorem widestVariables_of_invalidNumber
    {lines : List String}
    {text : String}
    (refused : dimensionsOf lines = .error (.invalidNumber text)) :
    widestVariables lines = .error (.invalidNumber text) := by
  obtain ⟨before, line, behind, split, earlier, blamed⟩ := firstLine_of_dimensionsOf refused
  refine widestVariables_eq_error_iff.mpr ⟨before, line, behind, split, ?_, ?_⟩
  · intro passed member
    obtain ⟨width, hasWidth, positive⟩ := earlier passed member
    obtain ⟨set, read, _⟩ := exists_ofTokens_of_hasWidth hasWidth positive
    exact ⟨set, read⟩
  · rcases lineWidth_of_error blamed with unreadable | ⟨_, isMalformed⟩
    · exact unreadable
    · cases isMalformed

/-- If there is a widest set, only a line without a width stands in the way of dimensions. -/
theorem dimensionsOf_of_widestVariables
    {lines : List String}
    {set : VariableSet}
    (found : widestVariables lines = .ok set) :
    (∃ dimensions, dimensionsOf lines = .ok dimensions) ∨
      ∃ before line behind, lines = before ++ line :: behind ∧
        Widthless line ∧ (∀ earlier ∈ before, ¬ Widthless earlier) ∧
        dimensionsOf lines = .error (.malformedLine before.length .noVariables) := by
  cases outcome : dimensionsOf lines with
  | ok dimensions =>
      exact .inl ⟨dimensions, rfl⟩
  | error failure =>
      obtain ⟨before, line, behind, split, earlier, blamed⟩ :=
        firstLine_of_dimensionsOf outcome
      have member : line ∈ lines := by
        simp [split]
      obtain ⟨sets, each, _⟩ := widestVariables_eq_ok_iff.mp found
      obtain ⟨read, _, isRead⟩ := exists_mem_of_forall₂ each.flip member
      rcases lineWidth_of_error blamed with unreadable | ⟨widthless, rfl⟩
      · rw [unreadable] at isRead
        cases isRead
      · refine .inr ⟨before, line, behind, split, widthless, fun passed isPassed => ?_, rfl⟩
        obtain ⟨width, hasWidth, positive⟩ := earlier passed isPassed
        exact hasWidth.not_widthless positive

/--
The two ways to the width of some lines agree. If there are dimensions, every line has a
variable, the greatest last index is the number of variables, and the widest set is that
of the first line with this index and names all variables. A number that is too large for
the dimensions is too large for the widest set. If there is a widest set, only a line
without a width stands in the way of dimensions.
-/
theorem widestVariables_agrees
    {lines : List String}
    (filled : lines ≠ []) :
    (∀ dimensions, dimensionsOf lines = .ok dimensions →
      dimensions.constraintCount + 1 = lines.length ∧
      (∀ line ∈ lines, ∃ token ∈ tokenize line, token.kind = .variable) ∧
      IsGreatest {width | ∃ line ∈ lines, HasWidth line width} dimensions.variableCount ∧
      ∃ set, widestVariables lines = .ok set ∧
        OfFirstWidest lines dimensions.variableCount set ∧
        ∀ formulation : Formulation, formulation.lines = lines →
          formulation.allVariables = .ok set.extended ∧
            set.extended.length = dimensions.variableCount) ∧
    (∀ text, dimensionsOf lines = .error (.invalidNumber text) →
      widestVariables lines = .error (.invalidNumber text)) ∧
    ∀ set, widestVariables lines = .ok set →
      (∃ dimensions, dimensionsOf lines = .ok dimensions) ∨
        ∃ before line behind, lines = before ++ line :: behind ∧
          Widthless line ∧ (∀ earlier ∈ before, ¬ Widthless earlier) ∧
          dimensionsOf lines = .error (.malformedLine before.length .noVariables) := by
  refine ⟨fun dimensions success => ?_, fun _ => widestVariables_of_invalidNumber,
    fun _ => dimensionsOf_of_widestVariables⟩
  have constraintCount := constraintCount_of_dimensionsOf success
  have someLine := List.length_pos_of_ne_nil filled
  obtain ⟨set, found, isWidest⟩ := ofFirstWidest_of_dimensionsOf success filled
  refine ⟨by omega, fun line member => ?_, (isGreatest_of_dimensionsOf success filled).1,
    set, found, isWidest, ?_⟩
  · obtain ⟨_, ⟨token, last, _⟩, _⟩ :=
      exists_dimensionsOf_iff.mp ⟨dimensions, success⟩ line member
    exact ⟨token, mem_of_lastVariable? last⟩
  · rintro formulation rfl
    exact allVariables_of_ofFirstWidest found isWidest

/--
Two lines of the greatest width behind a line with a greater index, an index that is too
large, and an index of zero between two lines with a width.
-/
theorem widestVariables_agrees_samples :
    let lines := ["max3x7+2x2", "stx9+X3<=9", "x1+x3>=2"]
    let tooLarge := ["maxx1", "stx2-x18446744073709551616=1", "x0<=1"]
    let zero := ["maxx2", "stx5+x0<=1", "x1<=1"]
    lines ≠ [] ∧ dimensionsOf lines = .ok ⟨2, 3⟩ ∧
      widestVariables lines = .ok ⟨["x9", "x3"], 3⟩ ∧
      OfFirstWidest lines 3 ⟨["x9", "x3"], 3⟩ ∧
      (ofLines lines).allVariables = .ok ["x1", "x2", "x3"] ∧
      dimensionsOf tooLarge = .error (.invalidNumber "x18446744073709551616") ∧
      widestVariables tooLarge = .error (.invalidNumber "x18446744073709551616") ∧
      widestVariables zero = .ok ⟨["x2"], 2⟩ ∧
      dimensionsOf zero = .error (.malformedLine 1 .noVariables) ∧
      ∃ before line behind, zero = before ++ line :: behind ∧ Widthless line ∧
        ∀ earlier ∈ before, ¬ Widthless earlier := by
  intro lines tooLarge zero
  have filled : lines ≠ [] := List.cons_ne_nil _ _
  have tooLargeFilled : tooLarge ≠ [] := List.cons_ne_nil _ _
  have zeroFilled : zero ≠ [] := List.cons_ne_nil _ _
  have measured : dimensionsOf lines = .ok ⟨2, 3⟩ := by
    unfold lines
    rfl
  have widest : widestVariables lines = .ok ⟨["x9", "x3"], 3⟩ := by
    unfold lines
    rfl
  have refused :
      dimensionsOf tooLarge = .error (.invalidNumber "x18446744073709551616") := by
    unfold tooLarge
    rfl
  have zeroWidest : widestVariables zero = .ok ⟨["x2"], 2⟩ := by
    unfold zero
    rfl
  have zeroRefused : dimensionsOf zero = .error (.malformedLine 1 .noVariables) := by
    unfold zero
    rfl
  obtain ⟨_, _, _, set, found, isWidest, names⟩ :=
    (widestVariables_agrees filled).1 _ measured
  rw [widest] at found
  cases found
  have sameFailure := (widestVariables_agrees tooLargeFilled).2.1 _ refused
  have withoutWidth := (widestVariables_agrees zeroFilled).2.2 _ zeroWidest
  rw [zeroRefused] at withoutWidth
  rcases withoutWidth with ⟨_, measured⟩ | ⟨before, line, behind, split, widthless, first, _⟩
  · cases measured
  · exact ⟨filled, measured, widest, isWidest, (names (ofLines lines) rfl).1, refused,
      sameFailure, zeroWidest, zeroRefused, before, line, behind, split, widthless, first⟩

end Formulation

end LinearProgram
