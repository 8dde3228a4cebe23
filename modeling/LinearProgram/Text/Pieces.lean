import LinearProgram.Text.Blank

namespace LinearProgram.Text

/-!
# Cutting texts into pieces

Texts are character lists here. A text is cut at single characters
(`splitWhere`), at occurrences of a delimiter (`splitOn`), into lines
(`lines`), or into words (`words`). No character is lost: the pieces hold all
that does not separate them (`flatten_splitWhere`), and with the delimiter
between them they make up the text again (`intercalate_splitOn`).
-/

/-- The pieces with a character put in front of the first of them. -/
def extendFirst (character : Char) : List (List Char) → List (List Char)
  | [] => [[character]]
  | piece :: pieces => (character :: piece) :: pieces

/-- The pieces between the characters that satisfy a predicate. -/
def splitWhere (separates : Char → Bool) : List Char → List (List Char)
  | [] => [[]]
  | character :: rest =>
      if separates character then
        [] :: splitWhere separates rest
      else
        extendFirst character (splitWhere separates rest)

/--
The pieces between the delimiter's occurrences, leftmost first and without
overlap, once the first `skip` characters, which belong to an occurrence
already found, have been passed over.
-/
def splitFrom (delimiter : List Char) (skip : Nat) : List Char → List (List Char)
  | [] => [[]]
  | character :: rest =>
      match skip with
      | remaining + 1 => splitFrom delimiter remaining rest
      | 0 =>
          if delimiter.isPrefixOf (character :: rest) then
            [] :: splitFrom delimiter (delimiter.length - 1) rest
          else
            extendFirst character (splitFrom delimiter 0 rest)

/-- The pieces between the occurrences of a nonempty delimiter. -/
def splitOn (delimiter : List Char) (text : List Char) : List (List Char) :=
  splitFrom delimiter 0 text

/-- A line without the carriage return that precedes its line feed. -/
def dropReturn (line : List Char) : List Char :=
  if line.getLast? = some '\r' then line.dropLast else line

/--
The lines whose contents are the pieces between line feeds: what follows the
last line feed is a line only if it is nonempty, and it keeps a final carriage
return, since no line feed follows it.
-/
def linesOfPieces : List (List Char) → List (List Char)
  | [] => []
  | [unended] => if unended.isEmpty then [] else [unended]
  | ended :: next :: rest => dropReturn ended :: linesOfPieces (next :: rest)

/-- The lines of a text, each ended by a line feed or a carriage return and a line feed. -/
def lines (text : List Char) : List (List Char) :=
  linesOfPieces (splitWhere (· == '\n') text)

/-- The maximal runs of characters that are not blank. -/
def words (text : List Char) : List (List Char) :=
  (splitWhere isBlank text).filter fun word => !word.isEmpty

/-- A list of pieces that has been extended is not empty. -/
theorem extendFirst_ne_nil (character : Char) (pieces : List (List Char)) :
    extendFirst character pieces ≠ [] := by
  cases pieces <;> simp [extendFirst]

/-- A text has at least one piece. -/
theorem splitWhere_ne_nil (separates : Char → Bool) (text : List Char) :
    splitWhere separates text ≠ [] := by
  cases text with
  | nil =>
      simp [splitWhere]
  | cons character rest =>
      by_cases isSeparator : separates character
      · simp [splitWhere, isSeparator]
      · simp [splitWhere, isSeparator, extendFirst_ne_nil]

/-- A text has at least one piece. -/
theorem splitFrom_ne_nil (delimiter : List Char) (skip : Nat) (text : List Char) :
    splitFrom delimiter skip text ≠ [] := by
  induction text generalizing skip with
  | nil =>
      simp [splitFrom]
  | cons character rest inductionHypothesis =>
      cases skip with
      | zero =>
          by_cases found : delimiter.isPrefixOf (character :: rest)
          · simp [splitFrom, found]
          · simp [splitFrom, found, extendFirst_ne_nil]
      | succ remaining =>
          simpa [splitFrom] using inductionHypothesis remaining

/-- Extending the first piece extends the pieces with a delimiter between them. -/
theorem intercalate_extendFirst
    (delimiter : List Char)
    (character : Char)
    {pieces : List (List Char)}
    (nonempty : pieces ≠ []) :
    delimiter.intercalate (extendFirst character pieces) =
      character :: delimiter.intercalate pieces := by
  cases pieces with
  | nil =>
      exact absurd rfl nonempty
  | cons piece rest =>
      cases rest <;> simp [extendFirst, List.intercalate]

/-- An empty piece in front of others starts with a delimiter. -/
theorem intercalate_nil_cons
    (delimiter : List Char)
    {pieces : List (List Char)}
    (nonempty : pieces ≠ []) :
    delimiter.intercalate ([] :: pieces) = delimiter ++ delimiter.intercalate pieces := by
  cases pieces with
  | nil =>
      exact absurd rfl nonempty
  | cons piece rest =>
      simp [List.intercalate]

/-- The pieces of a text hold the characters that do not separate them. -/
theorem flatten_splitWhere (separates : Char → Bool) (text : List Char) :
    (splitWhere separates text).flatten = text.filter fun character => !separates character := by
  induction text with
  | nil =>
      rfl
  | cons character rest inductionHypothesis =>
      by_cases isSeparator : separates character
      · simp [splitWhere, isSeparator, inductionHypothesis]
      · have extended :
            (extendFirst character (splitWhere separates rest)).flatten =
              character :: (splitWhere separates rest).flatten := by
          cases splitWhere separates rest <;> simp [extendFirst]
        simp [splitWhere, isSeparator, extended, inductionHypothesis]

/-- The pieces between delimiters, with delimiters between them, make up what is not skipped. -/
theorem intercalate_splitFrom
    {delimiter : List Char}
    (nonempty : delimiter ≠ [])
    (skip : Nat)
    (text : List Char) :
    delimiter.intercalate (splitFrom delimiter skip text) = text.drop skip := by
  induction text generalizing skip with
  | nil =>
      simp [splitFrom, List.intercalate]
  | cons character rest inductionHypothesis =>
      cases skip with
      | succ remaining =>
          simpa [splitFrom] using inductionHypothesis remaining
      | zero =>
          by_cases found : delimiter.isPrefixOf (character :: rest)
          · obtain ⟨behind, split⟩ := List.isPrefixOf_iff_prefix.mp found
            obtain ⟨first, others, shape⟩ := List.exists_cons_of_ne_nil nonempty
            subst shape
            injection split with sameFirst restSplit
            subst sameFirst restSplit
            have restPieces := inductionHypothesis others.length
            simp only [List.append_eq, List.drop_left] at restPieces
            simp [splitFrom, intercalate_nil_cons, splitFrom_ne_nil, restPieces]
          · simp [splitFrom, found, intercalate_extendFirst, splitFrom_ne_nil,
              inductionHypothesis]

/-- The pieces of a text, with delimiters between them, make up the text. -/
theorem intercalate_splitOn
    {delimiter : List Char}
    (nonempty : delimiter ≠ [])
    (text : List Char) :
    delimiter.intercalate (splitOn delimiter text) = text := by
  simpa [splitOn] using intercalate_splitFrom nonempty 0 text

end LinearProgram.Text
