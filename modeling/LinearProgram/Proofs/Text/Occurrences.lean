import LinearProgram.Proofs.Text.Lines

namespace LinearProgram.Text

/-!
# Texts without their delimiters

The pieces between the occurrences of a delimiter hold the text without these
occurrences (`without_flatten_splitOn`). If the delimiter is a single character,
the blanks of the pieces are those of the text, so it makes no difference whether
other blanks are taken out before or after cutting
(`map_compact_splitWhere`).
-/

/--
A text without the occurrences of a delimiter, which are looked for from left to
right and do not overlap.
-/
inductive Without (delimiter : List Char) : List Char → List Char → Prop where
  | nil : Without delimiter [] []
  | occurrence
      {rest kept : List Char}
      (behind : Without delimiter rest kept) :
      Without delimiter (delimiter ++ rest) kept
  | keep
      {character : Char}
      {rest kept : List Char}
      (elsewhere : ¬ delimiter <+: character :: rest)
      (behind : Without delimiter rest kept) :
      Without delimiter (character :: rest) (character :: kept)

/-- There is only one way to take out the occurrences of a nonempty delimiter. -/
theorem Without.unique
    {delimiter text kept other : List Char}
    (nonempty : delimiter ≠ [])
    (without : Without delimiter text kept)
    (otherWithout : Without delimiter text other) :
    kept = other := by
  induction without generalizing other with
  | nil =>
      generalize isText : ([] : List Char) = text at otherWithout
      cases otherWithout with
      | nil =>
          rfl
      | occurrence behind =>
          exact absurd (List.append_eq_nil_iff.mp isText.symm).1 nonempty
      | keep elsewhere behind =>
          cases isText
  | @occurrence rest kept behind inductionHypothesis =>
      generalize isText : delimiter ++ rest = text at otherWithout
      cases otherWithout with
      | nil =>
          exact absurd (List.append_eq_nil_iff.mp isText).1 nonempty
      | occurrence otherBehind =>
          rw [List.append_cancel_left isText] at inductionHypothesis
          exact inductionHypothesis otherBehind
      | keep elsewhere otherBehind =>
          exact absurd ⟨rest, isText⟩ elsewhere
  | @keep character rest kept elsewhere behind inductionHypothesis =>
      generalize isText : character :: rest = text at otherWithout
      cases otherWithout with
      | nil =>
          cases isText
      | occurrence otherBehind =>
          exact absurd ⟨_, isText.symm⟩ elsewhere
      | keep otherElsewhere otherBehind =>
          cases isText
          rw [inductionHypothesis otherBehind]

theorem flatten_extendFirst (character : Char) (pieces : List (List Char)) :
    (extendFirst character pieces).flatten = character :: pieces.flatten := by
  cases pieces <;> rfl

/-- The pieces that are still to come hold what is not skipped, without the delimiters. -/
theorem without_flatten_splitFrom
    {delimiter : List Char}
    (nonempty : delimiter ≠ [])
    (skip : Nat)
    (text : List Char) :
    Without delimiter (text.drop skip) (splitFrom delimiter skip text).flatten := by
  induction text generalizing skip with
  | nil =>
      rw [List.drop_nil]
      exact .nil
  | cons character rest inductionHypothesis =>
      cases skip with
      | succ remaining =>
          exact inductionHypothesis remaining
      | zero =>
          rw [List.drop_zero, splitFrom]
          split
          · next found =>
              obtain ⟨behind, split⟩ := List.isPrefixOf_iff_prefix.mp found
              obtain ⟨first, others, rfl⟩ := List.exists_cons_of_ne_nil nonempty
              cases split
              have without := inductionHypothesis others.length
              rw [List.append_eq, List.drop_left] at without
              exact .occurrence without
          · next elsewhere =>
              rw [flatten_extendFirst]
              exact .keep (fun found => elsewhere (List.isPrefixOf_iff_prefix.mpr found))
                (inductionHypothesis 0)

/-- The pieces of a split are the text without its delimiters. -/
theorem without_flatten_splitOn
    {delimiter : List Char}
    (nonempty : delimiter ≠ [])
    (text : List Char) :
    Without delimiter text (splitOn delimiter text).flatten :=
  without_flatten_splitFrom nonempty 0 text

/-- A text without its blanks, except that one character is kept even if it is blank. -/
def compactBut (delimiter : Char) (text : List Char) : List Char :=
  text.filter fun character => character == delimiter || !isBlank character

/-- A blank does not extend what is left of a piece. -/
theorem map_compact_extendFirst
    (character : Char)
    {pieces : List (List Char)}
    (nonempty : pieces ≠ []) :
    (extendFirst character pieces).map compact =
      if isBlank character then
        pieces.map compact
      else
        extendFirst character (pieces.map compact) := by
  obtain ⟨piece, others, rfl⟩ := List.exists_cons_of_ne_nil nonempty
  split
  · next blank =>
      simp [extendFirst, compact, blank]
  · next filled =>
      simp [extendFirst, compact, filled]

/-- Blanks that do not separate may be taken out before a text is cut. -/
theorem map_compact_splitWhere (delimiter : Char) (text : List Char) :
    (splitWhere (· == delimiter) (compactBut delimiter text)).map compact =
      (splitWhere (· == delimiter) text).map compact := by
  induction text with
  | nil =>
      rfl
  | cons character rest inductionHypothesis =>
      rw [compactBut] at inductionHypothesis ⊢
      by_cases separates : character == delimiter
      · rw [List.filter_cons_of_pos (by simp [separates]), splitWhere, splitWhere,
          if_pos separates, if_pos separates, List.map_cons, List.map_cons,
          inductionHypothesis]
      · by_cases blank : isBlank character
        · rw [List.filter_cons_of_neg (by simp [separates, blank]), inductionHypothesis,
            splitWhere, if_neg separates, map_compact_extendFirst _ (splitWhere_ne_nil _ _),
            if_pos blank]
        · rw [List.filter_cons_of_pos (by simp [blank]), splitWhere, splitWhere,
            if_neg separates, if_neg separates,
            map_compact_extendFirst _ (splitWhere_ne_nil _ _),
            map_compact_extendFirst _ (splitWhere_ne_nil _ _), inductionHypothesis]

/-- Texts that differ in blanks alone have the same pieces, up to blanks. -/
theorem map_compact_splitWhere_congr
    {delimiter : Char}
    {text other : List Char}
    (same : compactBut delimiter text = compactBut delimiter other) :
    (splitWhere (· == delimiter) text).map compact =
      (splitWhere (· == delimiter) other).map compact := by
  rw [← map_compact_splitWhere, same, map_compact_splitWhere]

end LinearProgram.Text
