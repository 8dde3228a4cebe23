import LinearProgram.Text.Pieces

namespace LinearProgram.Text

/-!
# Pieces, lines and words of composed texts

Cutting undoes joining: a text made up of pieces with separators between them
is cut into those pieces (`splitWhere_intercalate`), rows on lines of their own
are the lines of their text (`lines_intercalate`), and entries with spaces
between them are its words (`words_intercalate`). A line feed ends a line
whatever stands around it (`lines_append_lineFeed`).
-/

section Pieces

variable {separates : Char → Bool}

/-- The first piece is extended whatever pieces follow. -/
theorem extendFirst_append
    (character : Char)
    {earlier : List (List Char)}
    (nonempty : earlier ≠ [])
    (later : List (List Char)) :
    extendFirst character (earlier ++ later) =
      extendFirst character earlier ++ later := by
  cases earlier with
  | nil =>
      exact absurd rfl nonempty
  | cons piece pieces =>
      rfl

/--
A separator divides the pieces of a text into those before it and those behind
it.
-/
theorem splitWhere_append_separator
    {separator : Char}
    (isSeparator : separates separator)
    (first rest : List Char) :
    splitWhere separates (first ++ separator :: rest) =
      splitWhere separates first ++ splitWhere separates rest := by
  induction first with
  | nil =>
      simp [splitWhere, isSeparator]
  | cons character others inductionHypothesis =>
      by_cases separatesFirst : separates character
      · simp [splitWhere, separatesFirst, inductionHypothesis]
      · simp only [List.cons_append, splitWhere, separatesFirst,
          Bool.false_eq_true, if_false]
        rw [inductionHypothesis,
          extendFirst_append character (splitWhere_ne_nil _ _)]

theorem splitWhere_eq_singleton
    {text : List Char}
    (whole : ∀ character ∈ text, separates character = false) :
    splitWhere separates text = [text] := by
  induction text with
  | nil =>
      rfl
  | cons character rest inductionHypothesis =>
      have restWhole := inductionHypothesis fun other member =>
        whole other (List.mem_cons_of_mem _ member)
      simp [splitWhere, whole character List.mem_cons_self, restWhole, extendFirst]

/-- Pieces that have been joined by separators are found again. -/
theorem splitWhere_intercalate
    {separator : Char}
    (isSeparator : separates separator)
    {pieces : List (List Char)}
    (nonempty : pieces ≠ [])
    (whole : ∀ piece ∈ pieces, ∀ character ∈ piece, separates character = false) :
    splitWhere separates (List.intercalate [separator] pieces) = pieces := by
  induction pieces with
  | nil =>
      exact absurd rfl nonempty
  | cons piece rest inductionHypothesis =>
      have pieceWhole := splitWhere_eq_singleton (whole piece List.mem_cons_self)
      cases rest with
      | nil =>
          simpa [List.intercalate_singleton] using pieceWhole
      | cons next others =>
          rw [List.intercalate_cons_cons, List.append_assoc, List.singleton_append,
            splitWhere_append_separator isSeparator, pieceWhole,
            inductionHypothesis (List.cons_ne_nil next others) fun other member =>
              whole other (List.mem_cons_of_mem _ member)]
          rfl

/-- What joined pieces hold comes from a piece or is a separator. -/
theorem mem_intercalate_singleton
    {separator character : Char}
    {pieces : List (List Char)}
    (member : character ∈ List.intercalate [separator] pieces) :
    character = separator ∨ ∃ piece ∈ pieces, character ∈ piece := by
  induction pieces with
  | nil =>
      cases member
  | cons piece rest inductionHypothesis =>
      cases rest with
      | nil =>
          rw [List.intercalate_singleton] at member
          exact .inr ⟨piece, List.mem_cons_self, member⟩
      | cons next others =>
          rw [List.intercalate_cons_cons, List.append_assoc, List.mem_append,
            List.mem_append, List.mem_singleton] at member
          rcases member with inPiece | isSeparator | inRest
          · exact .inr ⟨piece, List.mem_cons_self, inPiece⟩
          · exact .inl isSeparator
          · rcases inductionHypothesis inRest
                with isSeparator | ⟨found, foundMember, holds⟩
            · exact .inl isSeparator
            · exact .inr ⟨found, List.mem_cons_of_mem _ foundMember, holds⟩

/-- A piece holds only characters of the text, and no separators. -/
theorem mem_of_mem_splitWhere
    {text piece : List Char}
    (pieceMember : piece ∈ splitWhere separates text)
    {character : Char}
    (member : character ∈ piece) :
    character ∈ text ∧ separates character = false := by
  have inPieces : character ∈ (splitWhere separates text).flatten :=
    List.mem_flatten.mpr ⟨piece, pieceMember, member⟩
  rw [flatten_splitWhere] at inPieces
  simpa using inPieces

/-- A delimiter of one character cuts a text where the character stands. -/
theorem splitOn_singleton
    (separator : Char)
    (text : List Char) :
    splitOn [separator] text = splitWhere (· == separator) text := by
  rw [splitOn]
  induction text with
  | nil =>
      rfl
  | cons character rest inductionHypothesis =>
      have starts : [separator].isPrefixOf (character :: rest) =
          (character == separator) := by
        simp [List.isPrefixOf, Bool.beq_comm]
      rw [splitFrom, splitWhere, starts]
      simp only [List.length_singleton, Nat.sub_self, inductionHypothesis]

end Pieces

/-- The beginning of a composed text ends in its first part or behind it. -/
theorem prefix_append_cases
    {text first rest : List Char}
    (isPrefix : text <+: first ++ rest) :
    text <+: first ∨ ∃ behind, text = first ++ behind ∧ behind <+: rest := by
  rcases List.prefix_or_prefix_of_prefix isPrefix (List.prefix_append first rest)
      with within | ⟨behind, rfl⟩
  · exact .inl within
  · exact .inr ⟨behind, rfl, (List.prefix_append_right_inj first).mp isPrefix⟩

theorem dropReturn_eq_self
    {line : List Char}
    (unreturned : '\r' ∉ line) :
    dropReturn line = line := by
  unfold dropReturn
  split
  · next endsInReturn =>
      exact absurd (List.mem_of_getLast? endsInReturn) unreturned
  · rfl

theorem mem_of_mem_dropReturn
    {line : List Char}
    {character : Char}
    (member : character ∈ dropReturn line) :
    character ∈ line := by
  unfold dropReturn at member
  split at member
  · exact (List.dropLast_sublist line).subset member
  · exact member

/-- The carriage return in front of a line feed is blank. -/
theorem compact_dropReturn (line : List Char) :
    compact (dropReturn line) = compact line := by
  unfold dropReturn
  split
  · next endsInReturn =>
      obtain ⟨others, rfl⟩ := List.getLast?_eq_some_iff.mp endsInReturn
      rw [List.dropLast_concat, compact_append]
      exact (List.append_nil _).symm
  · rfl

/-- Pieces that others follow have been ended by a line feed. -/
theorem linesOfPieces_append
    (ended : List (List Char))
    {rest : List (List Char)}
    (nonempty : rest ≠ []) :
    linesOfPieces (ended ++ rest) = ended.map dropReturn ++ linesOfPieces rest := by
  induction ended with
  | nil =>
      rfl
  | cons piece others inductionHypothesis =>
      obtain ⟨next, behind, shape⟩ :
          ∃ next behind, others ++ rest = next :: behind :=
        List.exists_cons_of_ne_nil (by simp [nonempty])
      rw [List.cons_append, shape, linesOfPieces, ← shape, inductionHypothesis]
      rfl

/-- A line feed ends a line, and the text behind it has its own lines. -/
theorem lines_append_lineFeed (first rest : List Char) :
    lines (first ++ '\n' :: rest) =
      (splitWhere (· == '\n') first).map dropReturn ++ lines rest := by
  unfold lines
  rw [splitWhere_append_separator (by decide),
    linesOfPieces_append _ (splitWhere_ne_nil _ _)]

/--
A line without breaks, ended by a line feed, comes before the lines behind it.
-/
theorem lines_line_append
    {line : List Char}
    (unbroken : '\n' ∉ line)
    (unreturned : '\r' ∉ line)
    (rest : List Char) :
    lines (line ++ '\n' :: rest) = line :: lines rest := by
  have whole : ∀ character ∈ line, (character == '\n') = false := by
    intro character member
    rw [beq_eq_false_iff_ne]
    rintro rfl
    exact unbroken member
  rw [lines_append_lineFeed, splitWhere_eq_singleton whole, List.map_singleton,
    dropReturn_eq_self unreturned]
  rfl

/-- A text without breaks is its only line, unless it is empty. -/
theorem lines_unbroken
    {text : List Char}
    (unbroken : '\n' ∉ text) :
    lines text = if text.isEmpty then [] else [text] := by
  have whole : ∀ character ∈ text, (character == '\n') = false := by
    intro character member
    rw [beq_eq_false_iff_ne]
    rintro rfl
    exact unbroken member
  rw [lines, splitWhere_eq_singleton whole]
  rfl

/--
Rows without breaks, none of them empty, are the lines of the text that holds
one on each.
-/
theorem lines_intercalate
    {rows : List (List Char)}
    (nonempty : ∀ row ∈ rows, row ≠ [])
    (unbroken : ∀ row ∈ rows, '\n' ∉ row)
    (unreturned : ∀ row ∈ rows, '\r' ∉ row) :
    lines (List.intercalate ['\n'] rows) = rows := by
  induction rows with
  | nil =>
      rfl
  | cons row rest inductionHypothesis =>
      have rowUnbroken := unbroken row List.mem_cons_self
      cases rest with
      | nil =>
          have filled : row.isEmpty = false := by
            simpa using nonempty row List.mem_cons_self
          rw [List.intercalate_singleton, lines_unbroken rowUnbroken, filled]
          rfl
      | cons next others =>
          rw [List.intercalate_cons_cons, List.append_assoc, List.singleton_append,
            lines_line_append rowUnbroken (unreturned row List.mem_cons_self),
            inductionHypothesis
              (fun other member => nonempty other (List.mem_cons_of_mem _ member))
              (fun other member => unbroken other (List.mem_cons_of_mem _ member))
              (fun other member =>
                unreturned other (List.mem_cons_of_mem _ member))]

/-- Words that have been joined by spaces are found again. -/
theorem words_intercalate
    {entries : List (List Char)}
    (nonempty : ∀ entry ∈ entries, entry ≠ [])
    (unbroken : ∀ entry ∈ entries, ∀ character ∈ entry, isBlank character = false) :
    words (List.intercalate [' '] entries) = entries := by
  have filled : (entries.filter fun entry => !entry.isEmpty) = entries := by
    rw [List.filter_eq_self]
    intro entry member
    simpa using nonempty entry member
  cases entries with
  | nil =>
      rfl
  | cons first rest =>
      rw [words,
        splitWhere_intercalate (by decide) (List.cons_ne_nil first rest) unbroken,
        filled]

/-- A line that is not blank has words. -/
theorem words_ne_nil
    {line : List Char}
    (filled : line.all isBlank = false) :
    words line ≠ [] := by
  obtain ⟨character, member, notBlank⟩ := List.all_eq_false.mp filled
  have inPieces : character ∈ (splitWhere isBlank line).flatten := by
    rw [flatten_splitWhere, List.mem_filter]
    exact ⟨member, by simpa using notBlank⟩
  obtain ⟨piece, pieceMember, inPiece⟩ := List.mem_flatten.mp inPieces
  apply List.ne_nil_of_mem (a := piece)
  rw [words, List.mem_filter]
  refine ⟨pieceMember, ?_⟩
  simpa using List.ne_nil_of_mem inPiece

end LinearProgram.Text
