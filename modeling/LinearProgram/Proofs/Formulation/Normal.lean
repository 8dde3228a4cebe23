import LinearProgram.Proofs.Formulation.SoundDraft
import LinearProgram.Proofs.Text.Occurrences

namespace LinearProgram.Formulation

/-!
# Normal lines

What is kept of a text as lines is its normal form: nothing but blanks and
delimiters is lost, and normal lines stay as they are (`linesOfText_inNormalForm`).
Blanks that do not separate lines make no difference (`linesOfText_congr`), and
neither does the way in which a file ends its lines (`linesOfText_lineFeed`).
-/

/-- Normal lines are told from the pieces without their blanks. -/
theorem normalLines_congr
    {pieces others : List (List Char)}
    (same : pieces.map Text.compact = others.map Text.compact) :
    normalLines pieces = normalLines others := by
  rw [normalLines, normalLines, same]

/-- Normal lines stay as they are. -/
theorem normalLines_of_isNormal
    {lines : List String}
    (normal : ∀ line ∈ lines, IsNormal line) :
    normalLines (lines.map String.toList) = lines := by
  have compact : (lines.map String.toList).map Text.compact = lines.map String.toList := by
    rw [List.map_map]
    refine List.map_congr_left fun line member => ?_
    exact Text.compact_eq_self (normal line member).unbroken
  have filled : ((lines.map String.toList).filter fun line => !line.isEmpty) =
      lines.map String.toList := by
    rw [List.filter_eq_self, List.forall_mem_map]
    intro line member
    simpa using (normal line member).filled
  rw [normalLines, compact, filled, List.map_map]
  simp [Function.comp_def]

/-- Normal lines hold all of the pieces that is not blank. -/
theorem join_normalLines (pieces : List (List Char)) :
    String.join (normalLines pieces) = .ofList (Text.compact pieces.flatten) := by
  induction pieces with
  | nil =>
      rfl
  | cons piece rest inductionHypothesis =>
      rw [List.flatten_cons, Text.compact_append, String.ofList_append,
        ← inductionHypothesis, normalLines, List.map_cons, List.filter_cons]
      split
      · rw [List.map_cons, String.join_cons]
        rfl
      · next empty =>
          have isEmpty : Text.compact piece = [] := by
            simpa using empty
          rw [isEmpty]
          exact (String.empty_append).symm

/-- A text is cut at any delimiter but an empty one. -/
theorem linesOfText_of_ne
    {delimiter : String}
    (nonempty : delimiter ≠ "")
    (text : String) :
    linesOfText text delimiter =
      .ok (normalLines (Text.splitOn delimiter.toList text.toList)) := by
  rw [linesOfText, if_neg nonempty]

/-- A text is cut wherever a delimiter of one character stands. -/
theorem linesOfText_singleton (text : String) (delimiter : Char) :
    linesOfText text (.singleton delimiter) =
      .ok (normalLines (Text.splitWhere (· == delimiter) text.toList)) := by
  rw [linesOfText_of_ne (by simp), String.toList_singleton, Text.splitOn_singleton]

/-- Texts that differ only in blanks that do not separate lines have the same lines. -/
theorem linesOfText_congr
    {delimiter : Char}
    {text other : String}
    (same : Text.compactBut delimiter text.toList = Text.compactBut delimiter other.toList) :
    linesOfText text (.singleton delimiter) = linesOfText other (.singleton delimiter) := by
  rw [linesOfText_singleton, linesOfText_singleton,
    normalLines_congr (Text.map_compact_splitWhere_congr same)]

/-- Normal lines with line feeds between them are the lines of their text. -/
theorem linesOfText_intercalate
    {lines : List String}
    (normal : ∀ line ∈ lines, IsNormal line) :
    linesOfText ("\n".intercalate lines) "\n" = .ok lines := by
  cases lines with
  | nil =>
      rfl
  | cons first others =>
      have whole : ∀ piece ∈ (first :: others).map String.toList,
          ∀ character ∈ piece, (character == '\n') = false := by
        rw [List.forall_mem_map]
        intro line member character inLine
        rw [beq_eq_false_iff_ne]
        rintro rfl
        have filled := (normal line member).unbroken _ inLine
        cases filled
      have pieces :
          Text.splitWhere (· == '\n')
              (List.intercalate ['\n'] ((first :: others).map String.toList)) =
            (first :: others).map String.toList :=
        Text.splitWhere_intercalate rfl (by simp) whole
      have lineFeed : "\n" = String.singleton '\n' := rfl
      rw [lineFeed, linesOfText_singleton, String.toList_intercalate,
        String.toList_singleton, pieces, normalLines_of_isNormal normal]

/--
Lines in normal form that hold all of a text but the occurrences of a delimiter and
the blanks, and that are read again as they are.
-/
structure NormalForm (text delimiter : String) (lines : List String) : Prop where
  normal : ∀ line ∈ lines, IsNormal line
  /-- The lines hold the text without the delimiter, which can be told in one way only. -/
  contents : ∃ kept,
    (∀ other, Text.Without delimiter.toList text.toList other ↔ other = kept) ∧
      String.join lines = .ofList (Text.compact kept)
  fixed : normalLines (lines.map String.toList) = lines
  joined : linesOfText ("\n".intercalate lines) "\n" = .ok lines

/-- The lines of every text are in normal form. -/
theorem linesOfText_inNormalForm
    {delimiter : String}
    (nonempty : delimiter ≠ "")
    (text : String) :
    ∃ lines, linesOfText text delimiter = .ok lines ∧ NormalForm text delimiter lines := by
  have filled : delimiter.toList ≠ [] := by
    simpa using nonempty
  have without := Text.without_flatten_splitOn filled text.toList
  have normal : ∀ line ∈ normalLines (Text.splitOn delimiter.toList text.toList),
      IsNormal line :=
    fun _ => isNormal_of_mem_normalLines
  refine ⟨_, linesOfText_of_ne nonempty text,
    { normal := normal
      contents := ⟨_, ?only, join_normalLines _⟩
      fixed := normalLines_of_isNormal normal
      joined := linesOfText_intercalate normal }⟩
  case only =>
    intro other
    constructor
    · exact fun otherWithout => otherWithout.unique filled without
    · rintro rfl
      exact without

/-- What ends a line is blank, and a line that is left out is empty. -/
theorem normalLines_linesOfPieces (pieces : List (List Char)) :
    normalLines (Text.linesOfPieces pieces) = normalLines pieces := by
  fun_induction Text.linesOfPieces pieces with
  | case1 =>
      rfl
  | case2 unended empty =>
      rw [List.isEmpty_iff.mp empty]
      rfl
  | case3 unended filled =>
      rfl
  | case4 ended next rest inductionHypothesis =>
      have sameHead : normalLines [Text.dropReturn ended] = normalLines [ended] :=
        normalLines_congr (by simp [Text.compact_dropReturn])
      rw [← List.singleton_append, normalLines_append, sameHead, inductionHypothesis,
        ← normalLines_append, List.singleton_append]

/-- A file has the lines of its text, whichever way its lines end. -/
theorem linesOfText_lineFeed (text : String) :
    linesOfText text "\n" = .ok (linesOfFile text) := by
  rw [linesOfFile, Text.lines, normalLines_linesOfPieces]
  exact linesOfText_singleton text '\n'

end LinearProgram.Formulation
