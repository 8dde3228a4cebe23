import LinearProgram.Proofs.Text.Lines

namespace LinearProgram.Text

/-!
# Line ends

Lines may be ended by line feeds alone or by line feeds with carriage returns in
front of them. A text whose line feeds are all turned from the one kind into the
other keeps its lines (`lines_withReturns`).
-/

/-- A text with a carriage return put in front of each line feed. -/
def withReturns (text : List Char) : List Char :=
  text.flatMap fun character => if character = '\n' then ['\r', '\n'] else [character]

@[simp] theorem withReturns_nil : withReturns [] = [] := rfl

@[simp] theorem withReturns_lineFeed (rest : List Char) :
    withReturns ('\n' :: rest) = '\r' :: '\n' :: withReturns rest := rfl

theorem withReturns_cons
    {character : Char}
    (noFeed : character ≠ '\n')
    (rest : List Char) :
    withReturns (character :: rest) = character :: withReturns rest := by
  simp [withReturns, noFeed]

theorem withReturns_append (first rest : List Char) :
    withReturns (first ++ rest) = withReturns first ++ withReturns rest := by
  simp [withReturns]

theorem withReturns_eq_self
    {text : List Char}
    (unbroken : '\n' ∉ text) :
    withReturns text = text := by
  induction text with
  | nil =>
      rfl
  | cons character rest inductionHypothesis =>
      rw [List.mem_cons, not_or] at unbroken
      rw [withReturns_cons (Ne.symm unbroken.1), inductionHypothesis unbroken.2]

/-- Nothing but carriage returns is added. -/
theorem mem_withReturns_iff
    {character : Char}
    (noReturn : character ≠ '\r')
    {text : List Char} :
    character ∈ withReturns text ↔ character ∈ text := by
  induction text with
  | nil =>
      simp
  | cons first rest inductionHypothesis =>
      by_cases feed : first = '\n'
      · subst feed
        simp [inductionHypothesis, noReturn]
      · rw [withReturns_cons feed, List.mem_cons, List.mem_cons, inductionHypothesis]

/-- A text ends at the same place if it ends in front of a character of a line. -/
theorem takeWhile_withReturns
    (ends : Char)
    (noFeed : ends ≠ '\n')
    (noReturn : ends ≠ '\r')
    (text : List Char) :
    (withReturns text).takeWhile (· != ends) = withReturns (text.takeWhile (· != ends)) := by
  induction text with
  | nil =>
      rfl
  | cons first rest inductionHypothesis =>
      by_cases feed : first = '\n'
      · subst feed
        simp [noFeed.symm, noReturn.symm, inductionHypothesis]
      · rw [withReturns_cons feed, List.takeWhile_cons, List.takeWhile_cons,
          inductionHypothesis]
        split
        · rw [withReturns_cons feed]
        · rfl

/-- A text without line ends is found at the start of a text whatever the line ends there. -/
theorem isPrefixOf_withReturns
    {plain : List Char}
    (unbroken : '\n' ∉ plain)
    (unreturned : '\r' ∉ plain)
    (text : List Char) :
    plain.isPrefixOf (withReturns text) = plain.isPrefixOf text := by
  induction plain generalizing text with
  | nil =>
      simp
  | cons character others inductionHypothesis =>
      rw [List.mem_cons, not_or] at unbroken unreturned
      cases text with
      | nil =>
          rfl
      | cons first rest =>
          by_cases feed : first = '\n'
          · subst feed
            simp [List.isPrefixOf, beq_false_of_ne (Ne.symm unbroken.1),
              beq_false_of_ne (Ne.symm unreturned.1)]
          · rw [withReturns_cons feed, List.isPrefixOf, List.isPrefixOf,
              inductionHypothesis unbroken.2 unreturned.2]

/-! The pieces between the line feeds. -/

/-- Pieces with a carriage return at the end of each but the last. -/
def returnPieces : List (List Char) → List (List Char)
  | [] => []
  | [last] => [last]
  | piece :: next :: rest => (piece ++ ['\r']) :: returnPieces (next :: rest)

/-- A carriage return at the end of a piece is out of the way of its start. -/
theorem returnPieces_extendFirst
    (character : Char)
    (pieces : List (List Char)) :
    returnPieces (extendFirst character pieces) =
      extendFirst character (returnPieces pieces) := by
  match pieces with
  | [] => rfl
  | [last] => rfl
  | piece :: next :: rest => rfl

theorem returnPieces_cons
    (piece : List Char)
    {pieces : List (List Char)}
    (nonempty : pieces ≠ []) :
    returnPieces (piece :: pieces) = (piece ++ ['\r']) :: returnPieces pieces := by
  obtain ⟨next, rest, rfl⟩ := List.exists_cons_of_ne_nil nonempty
  rfl

/-- The pieces between line feeds get the carriage returns that stand in front of these. -/
theorem splitWhere_withReturns (text : List Char) :
    splitWhere (· == '\n') (withReturns text) =
      returnPieces (splitWhere (· == '\n') text) := by
  induction text with
  | nil =>
      rfl
  | cons character rest inductionHypothesis =>
      by_cases feed : character = '\n'
      · subst feed
        simp [splitWhere, inductionHypothesis, extendFirst,
          returnPieces_cons [] (splitWhere_ne_nil _ rest)]
      · simp [withReturns_cons feed, splitWhere, feed, inductionHypothesis,
          returnPieces_extendFirst]

/-- The carriage returns that have been added are dropped again. -/
theorem linesOfPieces_returnPieces
    {pieces : List (List Char)}
    (unreturned : ∀ piece ∈ pieces, '\r' ∉ piece) :
    linesOfPieces (returnPieces pieces) = linesOfPieces pieces := by
  induction pieces with
  | nil =>
      rfl
  | cons piece pieces inductionHypothesis =>
      rw [List.forall_mem_cons] at unreturned
      cases pieces with
      | nil =>
          rfl
      | cons next rest =>
          have added : dropReturn (piece ++ ['\r']) = piece := by
            simp [dropReturn]
          have returnedNext : returnPieces (next :: rest) ≠ [] := by
            cases rest <;> simp [returnPieces]
          rw [returnPieces, ← List.singleton_append,
            linesOfPieces_append _ returnedNext, inductionHypothesis unreturned.2,
            linesOfPieces, dropReturn_eq_self unreturned.1, List.map_singleton, added]
          rfl

/-- The lines of a text do not depend on the kind of its line ends. -/
theorem lines_withReturns
    {text : List Char}
    (unreturned : '\r' ∉ text) :
    lines (withReturns text) = lines text := by
  rw [lines, splitWhere_withReturns, linesOfPieces_returnPieces, lines]
  intro piece member inPiece
  exact unreturned (mem_of_mem_splitWhere member inPiece).1

end LinearProgram.Text
