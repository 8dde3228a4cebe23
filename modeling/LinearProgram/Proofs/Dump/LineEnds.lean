import LinearProgram.Proofs.Dump.Layout
import LinearProgram.Proofs.Text.LineEnds

namespace LinearProgram.Dump

/-!
# Dumps with other line ends

A dump is read the same whether its lines are ended by line feeds alone or by
carriage returns and line feeds (`read_withReturns`). The search for a section
passes over line ends of either kind, so it finds the same section with the line
ends of the text, and what is told apart in a section or among the restrictions is
told apart in lines.
-/

open Text (withReturns)

theorem header_ne_nil (name : MatrixName) : header name ≠ [] := by
  rw [header_eq]
  exact List.cons_ne_nil _ _

theorem unbroken_header (name : MatrixName) : '\n' ∉ header name := by
  cases name <;> decide

theorem unreturned_header (name : MatrixName) : '\r' ∉ header name := by
  cases name <;> decide

theorem isPrefixOf_cons_of_not_mem
    {header : List Char}
    (nonempty : header ≠ [])
    {character : Char}
    (absent : character ∉ header)
    (rest : List Char) :
    header.isPrefixOf (character :: rest) = false := by
  obtain ⟨first, others, rfl⟩ := List.exists_cons_of_ne_nil nonempty
  rw [List.mem_cons, not_or] at absent
  rw [List.isPrefixOf, beq_false_of_ne (Ne.symm absent.1), Bool.false_and]

/-- What stands behind a header stays there with the line ends of the text. -/
theorem afterHeader?_withReturns
    (name : MatrixName)
    (atStart : Bool)
    (text : List Char) :
    afterHeader? (header name) atStart (withReturns text) =
      (afterHeader? (header name) atStart text).map withReturns := by
  have unbroken := unbroken_header name
  have unreturned := unreturned_header name
  induction text generalizing atStart with
  | nil =>
      rfl
  | cons character rest inductionHypothesis =>
      by_cases feed : character = '\n'
      · -- The carriage return starts no header and no line.
        subst feed
        simp [afterHeader?, isPrefixOf_cons_of_not_mem (header_ne_nil name) unbroken,
          isPrefixOf_cons_of_not_mem (header_ne_nil name) unreturned, inductionHypothesis]
      · have sameStart :=
          Text.isPrefixOf_withReturns unbroken unreturned (character :: rest)
        rw [Text.withReturns_cons feed] at sameStart ⊢
        rw [afterHeader?, afterHeader?, sameStart]
        split
        · next starts =>
            rw [Bool.and_eq_true, List.isPrefixOf_iff_prefix] at starts
            obtain ⟨behind, split⟩ := starts.2
            rw [← Text.withReturns_cons feed, ← split, Text.withReturns_append,
              Text.withReturns_eq_self unbroken, List.drop_left, List.drop_left]
            rfl
        · exact inductionHypothesis _

/-- The body of a section keeps the line ends of the text. -/
theorem body_withReturns (name : MatrixName) (text : List Char) :
    body name (withReturns text) = (body name text).map withReturns := by
  rw [body, body, afterHeader?_withReturns]
  cases afterHeader? (header name) true text with
  | none =>
      rfl
  | some rest =>
      have sameBracket : (withReturns rest).contains ']' = rest.contains ']' := by
        rw [Bool.eq_iff_iff, List.contains_iff_mem, List.contains_iff_mem,
          Text.mem_withReturns_iff (by decide)]
      simp only [Option.map_some, sameBracket,
        Text.takeWhile_withReturns ']' (by decide) (by decide)]
      split <;> rfl

theorem mem_of_body_eq_ok
    {name : MatrixName}
    {text content : List Char}
    (closed : body name text = .ok content)
    {character : Char}
    (member : character ∈ content) :
    character ∈ text := by
  rw [body] at closed
  split at closed
  · cases closed
  · next rest found =>
      split at closed
      · cases closed
        obtain ⟨before, split⟩ := eq_append_of_afterHeader? found
        rw [split, List.mem_append]
        exact .inr ((List.takeWhile_prefix _).subset member)
      · cases closed

section Unreturned

variable {text : List Char} (unreturned : '\r' ∉ text)

include unreturned

theorem filledLines_withReturns : filledLines (withReturns text) = filledLines text := by
  rw [filledLines, filledLines, Text.lines_withReturns unreturned]

theorem restrictionTexts_withReturns :
    restrictionTexts (withReturns text) = restrictionTexts text := by
  rw [restrictionTexts, restrictionTexts, Text.lines_withReturns unreturned]

/-- What is read of each line of a section does not depend on the line ends. -/
theorem mapM_filledLines_withReturns
    (name : MatrixName)
    (readLine : List Char → Except Error α) :
    (body name (withReturns text) >>= fun content => (filledLines content).mapM readLine) =
      (body name text >>= fun content => (filledLines content).mapM readLine) := by
  rw [body_withReturns]
  cases closed : body name text with
  | error error =>
      rfl
  | ok content =>
      have contentUnreturned : '\r' ∉ content :=
        fun member => unreturned (mem_of_body_eq_ok closed member)
      change (filledLines (withReturns content)).mapM readLine = _
      rw [filledLines_withReturns contentUnreturned]
      rfl

/-- A matrix is read the same, or quotes the same word. -/
theorem rowsOfSection_withReturns (name : MatrixName) :
    rowsOfSection name (withReturns text) = rowsOfSection name text :=
  mapM_filledLines_withReturns unreturned name (rowOfLine name)

theorem vectorOfSection_withReturns (name : MatrixName) :
    vectorOfSection name (withReturns text) = vectorOfSection name text :=
  mapM_filledLines_withReturns unreturned name (entryOfLine name)

theorem directionOfSection_withReturns :
    directionOfSection (withReturns text) = directionOfSection text := by
  rw [directionOfSection, directionOfSection, vectorOfSection_withReturns unreturned]

/-- The restrictions are read the same, or the same line is quoted. -/
theorem restrictionsOf_withReturns (dual : Bool) :
    restrictionsOf dual (withReturns text) = restrictionsOf dual text := by
  rw [restrictionsOf, restrictionsOf, restrictionTexts_withReturns unreturned]

end Unreturned

/--
A text without carriage returns is read as a dump in the same way with one in front of
each of its line feeds: the same matrices are read, or the same error is found.
-/
theorem read_withReturns
    {text : String}
    (unreturned : '\r' ∉ text.toList)
    (dual : Bool) :
    read (String.ofList (withReturns text.toList)) dual = read text dual := by
  rw [read, read, String.toList_ofList, ofCharacters, ofCharacters,
    rowsOfSection_withReturns unreturned, directionOfSection_withReturns unreturned,
    restrictionsOf_withReturns unreturned dual]
  simp only [vectorOfSection_withReturns unreturned]

/-- A dump with restrictions, and one in which a restriction line is quoted. -/
theorem read_withReturns_restrictions :
    let sections := "A=[1 2\n\n3 4]\nb=[5\n6\n]\nc=[7\n8]\nEqin=[-1\n1]\nMinMax=[1]\n"
    let whole := sections ++ "w_1 free\nw_2 >= 0"
    let faulty := sections ++ "w_1 free\nw_2 maybe\n"
    '\r' ∉ whole.toList ∧ '\r' ∉ faulty.toList ∧
      read (String.ofList (withReturns whole.toList)) true =
        .ok ⟨[[1, 2], [3, 4]], [5, 6], [7, 8], [.le, .ge], .max, some [.free, .nonNegative]⟩ ∧
      read (String.ofList (withReturns faulty.toList)) true =
        .error (.invalidRestriction "w_2 maybe") := by
  intro sections whole faulty
  have wholeUnreturned : '\r' ∉ whole.toList := by
    decide
  have faultyUnreturned : '\r' ∉ faulty.toList := by
    decide
  refine ⟨wholeUnreturned, faultyUnreturned, ?_, ?_⟩
  · rw [read_withReturns wholeUnreturned]
    unfold whole sections
    rfl
  · rw [read_withReturns faultyUnreturned]
    unfold faulty sections
    rfl

end LinearProgram.Dump
