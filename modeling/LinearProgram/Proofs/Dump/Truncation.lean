import LinearProgram.Proofs.Dump.RoundTrip
import Mathlib.Data.List.Infix
import Mathlib.Data.List.TakeWhile

namespace LinearProgram.Dump

/-!
# Dumps that break off

The beginning of a dump is either refused or holds what the whole dump holds
(`read_truncated`). A section that has been closed does not change with what
follows it, so a dump that goes on behind its last bracket has all its sections.
A restriction line that breaks off carries no restriction, and lines that are
lacking are noticed by their number.
-/

section Sections

variable {name : MatrixName} {text content : List Char}

/-- A search finds the same header whatever is written behind the text. -/
theorem afterHeader?_append
    {header rest : List Char}
    {atStart : Bool}
    (found : afterHeader? header atStart text = some rest)
    (behind : List Char) :
    afterHeader? header atStart (text ++ behind) = some (rest ++ behind) := by
  induction text generalizing atStart with
  | nil =>
      cases found
  | cons character others inductionHypothesis =>
      rw [afterHeader?] at found
      rw [List.cons_append, afterHeader?]
      split at found
      · next starts =>
          rw [Bool.and_eq_true, List.isPrefixOf_iff_prefix] at starts
          have fits := starts.2.length_le
          have startsStill : header <+: character :: (others ++ behind) :=
            starts.2.trans (List.prefix_append _ behind)
          rw [Option.some.injEq] at found
          rw [if_pos (by rw [starts.1, List.isPrefixOf_iff_prefix.mpr startsStill]; rfl),
            ← List.cons_append, List.drop_append_of_le_length fits, found]
      · next otherwise =>
          -- The header is found later, so it is too short to reach beyond the text.
          have fits : header.length ≤ (character :: others).length := by
            obtain ⟨before, shape⟩ := eq_append_of_afterHeader? found
            rw [shape]
            simp only [List.length_cons, List.length_append]
            omega
          have notHere :
              ¬ (atStart && header.isPrefixOf (character :: (others ++ behind))) = true := by
            rw [Bool.and_eq_true, List.isPrefixOf_iff_prefix]
            rintro ⟨lineStart, starts⟩
            apply otherwise
            rw [lineStart, Bool.true_and, List.isPrefixOf_iff_prefix]
            exact List.prefix_of_prefix_length_le starts
              (List.prefix_append (character :: others) behind) fits
          rw [if_neg notHere, inductionHypothesis found]

/-- A section that has been closed stays as it is, whatever follows it. -/
theorem body_append
    (closed : body name text = .ok content)
    (behind : List Char) :
    body name (text ++ behind) = .ok content := by
  rw [body] at closed ⊢
  cases found : afterHeader? (header name) true text with
  | none =>
      rw [found] at closed
      cases closed
  | some rest =>
      rw [found] at closed
      rw [afterHeader?_append found]
      simp only at closed ⊢
      split at closed
      · next bracketed =>
          have unfinished :
              ¬ (rest.takeWhile fun character => character != ']').length =
                rest.length := by
            intro whole
            have all := List.takeWhile_eq_self_iff.mp
              ((List.takeWhile_prefix _).eq_of_length whole)
            have bracket := all ']' (List.contains_iff_mem.mp bracketed)
            cases bracket
          rw [List.contains_append, bracketed, Bool.true_or, if_pos rfl,
            List.takeWhile_append, if_neg unfinished]
          exact closed
      · cases closed

/-- A section that is read has its bracket behind the start of its header. -/
theorem bracket_of_body_eq_ok
    (closed : body name text = .ok content) :
    ∃ before behind, text = before ++ initial name :: behind ∧ ']' ∈ behind := by
  rw [body] at closed
  split at closed
  · cases closed
  · next rest found =>
      split at closed
      · next bracketed =>
          obtain ⟨before, shape⟩ := eq_append_of_afterHeader? found
          refine ⟨before, (header name).tail ++ rest, ?_, ?_⟩
          · rw [shape, header_eq name]
            simp
          · exact List.mem_append_right _ (List.contains_iff_mem.mp bracketed)
      · cases closed

/--
A section is not read from text that breaks off in front of its bracket, when
nothing before it looks like its header.
-/
theorem body_ne_ok_of_unclosed
    {before opened : List Char}
    (absent : initial name ∉ before)
    (unclosed : ']' ∉ opened)
    (isPrefix : text <+: before ++ opened) :
    body name text ≠ .ok content := by
  intro closed
  obtain ⟨passed, behind, rfl, bracketed⟩ := bracket_of_body_eq_ok closed
  obtain ⟨lacking, whole⟩ := isPrefix
  rw [List.append_assoc] at whole
  rcases List.append_eq_append_iff.mp whole
      with ⟨between, beforeShape, openedShape⟩ | ⟨between, passedShape, openedShape⟩
  · cases between with
    | nil =>
        apply unclosed
        rw [List.nil_append, List.cons_append] at openedShape
        rw [← openedShape]
        simp [bracketed]
    | cons head others =>
        rw [List.cons_append, List.cons_append, List.cons_eq_cons] at openedShape
        apply absent
        rw [beforeShape, openedShape.1]
        simp
  · apply unclosed
    rw [openedShape]
    simp [bracketed]

end Sections

section Restrictions

/-- A label that breaks off is none. -/
theorem ofLabel?_of_cut
    {restriction : Restriction}
    {label : List Char}
    (isPrefix : label <+: restriction.label.toList)
    (cut : label ≠ restriction.label.toList) :
    Restriction.ofLabel? (String.ofList label) = none := by
  have none : ∀ beginning ∈ restriction.label.toList.inits,
      beginning ≠ restriction.label.toList →
        Restriction.ofLabel? (String.ofList beginning) = none := by
    cases restriction <;> decide
  exact none label ((List.mem_inits _ _).mpr isPrefix) cut

/-- A line without a space behind its mark carries no restriction. -/
theorem restrictionOfLine?_of_not_mem
    {numbered : List Char}
    (unspaced : ' ' ∉ numbered)
    (position : Nat) :
    restrictionOfLine? position ('w' :: '_' :: numbered) = none := by
  have noLabel : numbered.dropWhile (fun character => character != ' ') = [] := by
    rw [List.dropWhile_eq_nil_iff]
    intro character member
    rw [bne_iff_ne]
    rintro rfl
    exact unspaced member
  simp [restrictionOfLine?, noLabel]

/-- A restriction line that breaks off carries no restriction. -/
theorem restrictionOfLine?_of_cut
    {position index : Nat}
    {restriction : Restriction}
    {line : List Char}
    (isPrefix : line <+: restrictionText index restriction)
    (cut : line ≠ restrictionText index restriction) :
    restrictionOfLine? position line = none := by
  have unspaced : ' ' ∉ Numeral.ofNat index := fun member =>
    ne_of_mem_ofNat member rfl rfl
  rcases List.prefix_cons_iff.mp isPrefix with rfl | ⟨tail, rfl, tailPrefix⟩
  · rfl
  rcases List.prefix_cons_iff.mp tailPrefix with rfl | ⟨numbered, rfl, numberedPrefix⟩
  · rfl
  rcases Text.prefix_append_cases numberedPrefix
      with inNumeral | ⟨behind, rfl, behindPrefix⟩
  · exact restrictionOfLine?_of_not_mem
      (fun member => unspaced (inNumeral.subset member)) position
  · rcases List.prefix_cons_iff.mp behindPrefix with rfl | ⟨label, rfl, labelPrefix⟩
    · rw [List.append_nil]
      exact restrictionOfLine?_of_not_mem unspaced position
    · have labelCut : label ≠ restriction.label.toList := by
        rintro rfl
        exact cut rfl
      rw [restrictionOfLine?_numeral, ofLabel?_of_cut labelPrefix labelCut, ite_self]

/-- A text without line breaks is the only line that may carry a restriction. -/
theorem restrictionTexts_unbroken
    {text : List Char}
    (unbroken : '\n' ∉ text) :
    restrictionTexts text = if ['w', '_'].isPrefixOf text then [text] else [] := by
  rw [restrictionTexts, Text.lines_unbroken unbroken]
  cases text with
  | nil =>
      rfl
  | cons first rest =>
      rw [List.isEmpty_cons, if_neg Bool.false_ne_true, List.filter_cons, List.filter_nil]

/-- Restriction lines break off in the first of them or behind its end. -/
theorem prefix_restrictionLines_cons
    {index : Nat}
    {restriction : Restriction}
    {rest : List Restriction}
    {text : List Char}
    (isPrefix : text <+: restrictionLines index (restriction :: rest)) :
    text <+: restrictionText index restriction ∨
      ∃ behind, text = restrictionText index restriction ++ '\n' :: behind ∧
        behind <+: restrictionLines (index + 1) rest := by
  rw [restrictionLines, restrictionLine_eq, List.append_assoc,
    List.singleton_append] at isPrefix
  rcases Text.prefix_append_cases isPrefix with within | ⟨behind, rfl, behindPrefix⟩
  · exact .inl within
  · rcases List.prefix_cons_iff.mp behindPrefix with rfl | ⟨others, rfl, othersPrefix⟩
    · rw [List.append_nil]
      exact .inl List.prefix_rfl
    · exact .inr ⟨others, rfl, othersPrefix⟩

theorem length_restrictionLines_cons
    (index : Nat)
    (restriction : Restriction)
    (rest : List Restriction) :
    (restrictionLines index (restriction :: rest)).length =
      (restrictionText index restriction).length + 1 +
        (restrictionLines (index + 1) rest).length := by
  rw [restrictionLines, restrictionLine_eq, List.length_append, List.length_append,
    List.length_singleton]

/-- One restriction is read of each line. -/
theorem length_of_restrictionsOfLines
    {index : Nat}
    {lines : List (List Char)}
    {restrictions : List Restriction}
    (read : restrictionsOfLines index lines = .ok restrictions) :
    restrictions.length = lines.length := by
  induction lines generalizing index restrictions with
  | nil =>
      cases read
      rfl
  | cons line rest inductionHypothesis =>
      rw [restrictionsOfLines] at read
      split at read
      · cases read
      · obtain ⟨others, othersRead, shape⟩ := bind_eq_ok_iff.mp read
        cases shape
        rw [List.length_cons, List.length_cons, inductionHypothesis othersRead]

/--
Restriction lines that break off before the end of the last label are not read,
or give too few restrictions.
-/
theorem length_lt_of_short_lines
    {index : Nat}
    {restrictions found : List Restriction}
    {text : List Char}
    (isPrefix : text <+: restrictionLines index restrictions)
    (short : text.length + 1 < (restrictionLines index restrictions).length)
    (read : restrictionsOfLines index (restrictionTexts text) = .ok found) :
    found.length < restrictions.length := by
  induction restrictions generalizing index text found with
  | nil =>
      cases short
  | cons restriction rest inductionHypothesis =>
      rw [length_restrictionLines_cons] at short
      rcases prefix_restrictionLines_cons isPrefix with within | ⟨behind, rfl, behindPrefix⟩
      · have unbroken : '\n' ∉ text := fun member =>
          not_mem_restrictionText (.inl rfl) index restriction (within.subset member)
        rw [restrictionTexts_unbroken unbroken] at read
        by_cases whole : text = restrictionText index restriction
        · -- The line is there, and others have to follow it.
          cases rest with
          | nil =>
              rw [whole] at short
              simp [restrictionLines] at short
          | cons next others =>
              have atMost : found.length ≤ 1 := by
                rw [length_of_restrictionsOfLines read]
                split <;> simp
              simp only [List.length_cons]
              omega
        · split at read
          · rw [restrictionsOfLines, restrictionOfLine?_of_cut within whole] at read
            cases read
          · cases read
            exact Nat.succ_pos _
      · rw [restrictionTexts_restrictionText, restrictionsOfLines] at read
        split at read
        · cases read
        · obtain ⟨others, othersRead, shape⟩ := bind_eq_ok_iff.mp read
          cases shape
          have fewer := inductionHypothesis behindPrefix
            (by simp only [List.length_append, List.length_cons] at short; omega)
            othersRead
          simpa using fewer

/-- The line feed behind the last label may be missing. -/
theorem restrictionTexts_of_long_lines
    {index : Nat}
    {restrictions : List Restriction}
    {text : List Char}
    (isPrefix : text <+: restrictionLines index restrictions)
    (long : (restrictionLines index restrictions).length ≤ text.length + 1) :
    restrictionTexts text = restrictionTexts (restrictionLines index restrictions) := by
  induction restrictions generalizing index text with
  | nil =>
      rw [restrictionLines, List.prefix_nil] at isPrefix
      rw [isPrefix, restrictionLines]
  | cons restriction rest inductionHypothesis =>
      rw [length_restrictionLines_cons] at long
      rw [restrictionLines, restrictionLine_eq, List.append_assoc, List.singleton_append,
        restrictionTexts_restrictionText]
      rcases prefix_restrictionLines_cons isPrefix with within | ⟨behind, rfl, behindPrefix⟩
      · have noLonger := within.length_le
        have whole : text = restrictionText index restriction :=
          within.eq_of_length (by omega)
        have noOthers : restrictionLines (index + 1) rest = [] :=
          List.eq_nil_of_length_eq_zero (by omega)
        rw [noOthers, whole, restrictionTexts_unbroken
          (not_mem_restrictionText (.inl rfl) index restriction)]
        rfl
      · rw [restrictionTexts_restrictionText, inductionHypothesis behindPrefix
          (by simp only [List.length_append, List.length_cons] at long; omega)]

end Restrictions

/-- The sections of a dump in front of the direction. -/
def beforeDirection (matrices : Matrices) : List Char :=
  sectionText .a (matrices.a.map rowText) ++
    (vectorSection .b matrices.b ++
      (vectorSection .c matrices.c ++ vectorSection .eqin matrices.eqinCodes))

/-- The section of the direction in front of the bracket that closes it. -/
def openDirection (matrices : Matrices) : List Char :=
  header .minMax ++ Numeral.ofInt matrices.direction.code

/-- The characters of a dump up to the bracket that closes the direction. -/
def throughDirection (matrices : Matrices) : List Char :=
  beforeDirection matrices ++ (openDirection matrices ++ [']'])

section Direction

variable {matrices : Matrices}

/-- Two line feeds and the restriction lines follow the direction. -/
theorem characters_eq_throughDirection (matrices : Matrices) :
    characters matrices =
      throughDirection matrices ++
        '\n' :: '\n' :: restrictionLines 1 (matrices.varConstr.getD []) := by
  simp [characters_eq, throughDirection, beforeDirection, openDirection, vectorSection,
    sectionText, Matrices.minMax]

/-- The initial of a section does not occur in a section whose header does without it. -/
theorem initial_not_mem_sectionText
    {name other : MatrixName}
    {rows : List (List Int)}
    (absent : initial name ∉ header other) :
    initial name ∉ sectionText other (rows.map rowText) := by
  have absentBefore := not_mem_section (plain_rowTexts rows) absent
    (by cases name <;> decide) (by cases name <;> decide) (by cases name <;> decide)
  have whole := sectionText_append other (rows.map rowText) []
  rw [List.append_nil] at whole
  rw [whole, List.mem_append, not_or]
  exact ⟨absentBefore, by cases name <;> decide⟩

/-- The header of the direction starts nowhere in front of its section. -/
theorem not_mem_beforeDirection : initial .minMax ∉ beforeDirection matrices := by
  rw [beforeDirection, vectorSection_eq, vectorSection_eq, vectorSection_eq]
  simp only [List.mem_append, not_or]
  exact ⟨initial_not_mem_sectionText (by decide), initial_not_mem_sectionText (by decide),
    initial_not_mem_sectionText (by decide), initial_not_mem_sectionText (by decide)⟩

theorem not_mem_openDirection : ']' ∉ openDirection matrices := by
  rw [openDirection]
  cases matrices.direction <;> decide

/-- Text that breaks off in front of the last bracket is not read. -/
theorem ofCharacters_of_length_lt
    {text : List Char}
    {dual : Bool}
    (isPrefix : text <+: throughDirection matrices)
    (short : text.length < (throughDirection matrices).length) :
    ∃ error, ofCharacters text dual = .error error := by
  have within : text <+: beforeDirection matrices ++ openDirection matrices := by
    rw [throughDirection, ← List.append_assoc] at isPrefix short
    rw [List.length_append, List.length_singleton] at short
    exact List.prefix_of_prefix_length_le isPrefix (List.prefix_append _ _) (by omega)
  cases outcome : ofCharacters text dual with
  | error error =>
      exact ⟨error, rfl⟩
  | ok found =>
      obtain ⟨_, _, _, _, directionRead, _, _⟩ := ofCharacters_eq_ok_iff.mp outcome
      obtain ⟨content, closed, _⟩ := bind_eq_ok_iff.mp directionRead
      exact absurd closed
        (body_ne_ok_of_unclosed not_mem_beforeDirection not_mem_openDirection within)

/-- All sections have been closed with the direction. -/
theorem body_throughDirection
    (matrices : Matrices)
    {name : MatrixName}
    (isSection : name ∈ MatrixName.primal) :
    ∃ content, body name (throughDirection matrices) = .ok content := by
  rw [throughDirection, beforeDirection, vectorSection_eq, vectorSection_eq,
    vectorSection_eq]
  simp only [List.append_assoc]
  cases name with
  | a =>
      exact ⟨_, body_sectionText_self (plain_rowTexts _)⟩
  | b =>
      rw [body_sectionText_of_other (plain_rowTexts _) (by decide)]
      exact ⟨_, body_sectionText_self (plain_rowTexts _)⟩
  | c =>
      rw [body_sectionText_of_other (plain_rowTexts _) (by decide),
        body_sectionText_of_other (plain_rowTexts _) (by decide)]
      exact ⟨_, body_sectionText_self (plain_rowTexts _)⟩
  | eqin =>
      rw [body_sectionText_of_other (plain_rowTexts _) (by decide),
        body_sectionText_of_other (plain_rowTexts _) (by decide),
        body_sectionText_of_other (plain_rowTexts _) (by decide)]
      exact ⟨_, body_sectionText_self (plain_rowTexts _)⟩
  | minMax =>
      rw [body_sectionText_of_other (plain_rowTexts _) (by decide),
        body_sectionText_of_other (plain_rowTexts _) (by decide),
        body_sectionText_of_other (plain_rowTexts _) (by decide),
        body_sectionText_of_other (plain_rowTexts _) (by decide)]
      refine ⟨_, body_header_append ?_⟩
      cases matrices.direction <;> decide
  | varConstr =>
      exact absurd isSection (by decide)

/-- Behind the direction, only what is read as restrictions matters. -/
theorem ofCharacters_throughDirection
    {behind others : List Char}
    {dual : Bool}
    (same : restrictionsOf dual (throughDirection matrices ++ behind) =
      restrictionsOf dual (throughDirection matrices ++ others)) :
    ofCharacters (throughDirection matrices ++ behind) dual =
      ofCharacters (throughDirection matrices ++ others) dual := by
  have sameBody : ∀ name ∈ MatrixName.primal,
      body name (throughDirection matrices ++ behind) =
        body name (throughDirection matrices ++ others) := by
    intro name isSection
    obtain ⟨content, closed⟩ := body_throughDirection matrices isSection
    rw [body_append closed, body_append closed]
  simp only [ofCharacters, rowsOfSection, vectorOfSection, directionOfSection, same,
    sameBody .a (by decide), sameBody .b (by decide), sameBody .c (by decide),
    sameBody .eqin (by decide), sameBody .minMax (by decide)]

/-- Restriction lines are looked for behind the direction. -/
theorem restrictionTexts_throughDirection (rest : List Char) :
    restrictionTexts (throughDirection matrices ++ '\n' :: rest) =
      restrictionTexts rest := by
  have absent : 'w' ∉ openDirection matrices ++ [']'] := by
    rw [openDirection]
    cases matrices.direction <;> decide
  rw [throughDirection, beforeDirection]
  simp only [List.append_assoc]
  rw [restrictionTexts_sectionText (plain_rowTexts _), restrictionTexts_vectorSection,
    restrictionTexts_vectorSection, restrictionTexts_vectorSection, ← List.append_assoc,
    restrictionTexts_append_lineFeed absent]

theorem restrictionTexts_of_throughDirection :
    restrictionTexts (throughDirection matrices) = [] := by
  have unbroken : '\n' ∉ openDirection matrices ++ [']'] := by
    rw [openDirection]
    cases matrices.direction <;> decide
  rw [throughDirection, beforeDirection]
  simp only [List.append_assoc]
  rw [restrictionTexts_sectionText (plain_rowTexts _), restrictionTexts_vectorSection,
    restrictionTexts_vectorSection, restrictionTexts_vectorSection,
    restrictionTexts_unbroken unbroken]
  rfl

/-- The restrictions of a dump that breaks off behind the direction are those of its lines. -/
theorem restrictionTexts_of_cut
    {behind rest : List Char}
    (isPrefix : behind <+: '\n' :: '\n' :: rest) :
    ∃ lines, lines <+: rest ∧
      restrictionTexts (throughDirection matrices ++ behind) = restrictionTexts lines ∧
      (lines ≠ [] → behind.length = lines.length + 2) ∧
      behind.length ≤ lines.length + 2 := by
  rcases List.prefix_cons_iff.mp isPrefix with rfl | ⟨feed, rfl, feedPrefix⟩
  · refine ⟨[], List.nil_prefix, ?_, fun filled => absurd rfl filled, Nat.zero_le _⟩
    rw [List.append_nil, restrictionTexts_of_throughDirection]
    rfl
  rw [restrictionTexts_throughDirection]
  rcases List.prefix_cons_iff.mp feedPrefix with rfl | ⟨lines, rfl, linesPrefix⟩
  · exact ⟨[], List.nil_prefix, rfl, fun filled => absurd rfl filled, Nat.le_succ 1⟩
  · refine ⟨lines, linesPrefix, ?_, fun _ => rfl, Nat.le_refl _⟩
    rw [← List.nil_append ('\n' :: lines), restrictionTexts_append_lineFeed (by simp)]

/-- A dump breaks off in front of its last bracket or behind it. -/
theorem prefix_characters_cases
    {text : List Char}
    (isPrefix : text <+: characters matrices) :
    (text <+: throughDirection matrices ∧
        text.length < (throughDirection matrices).length) ∨
      ∃ behind, text = throughDirection matrices ++ behind ∧
        behind <+: '\n' :: '\n' :: restrictionLines 1 (matrices.varConstr.getD []) := by
  rw [characters_eq_throughDirection] at isPrefix
  rcases Text.prefix_append_cases isPrefix with within | behind
  · rcases Nat.lt_or_ge text.length (throughDirection matrices).length with early | late
    · exact .inl ⟨within, early⟩
    · have whole := within.eq_of_length (Nat.le_antisymm within.length_le late)
      exact .inr ⟨[], by rw [whole, List.append_nil], List.nil_prefix⟩
  · exact .inr behind

/-- What is read of a written vector has as many entries. -/
theorem length_of_vectorOfSection
    {name : MatrixName}
    {entries found : List Int}
    {text : List Char}
    (read : vectorOfSection name (vectorSection name entries ++ text) = .ok found) :
    found.length = entries.length := by
  have filled :
      ∀ row ∈ (entries.map fun entry => [entry]).map rowText,
        row.all Text.isBlank = false := by
    intro written member
    obtain ⟨row, rowMember, rfl⟩ := List.mem_map.mp member
    obtain ⟨entry, _, rfl⟩ := List.mem_map.mp rowMember
    exact rowText_not_blank (List.cons_ne_nil entry [])
  rw [vectorOfSection, vectorSection_eq, body_sectionText_self (plain_rowTexts _)] at read
  obtain ⟨content, same, found⟩ := bind_eq_ok_iff.mp read
  cases same
  rw [filledLines_intercalate (plain_rowTexts _) filled] at found
  simpa using (mapM_eq_ok_iff.mp found).length_eq.symm

/-- The objective of a dump that breaks off behind the direction is complete. -/
theorem length_objective
    {behind : List Char}
    {found : List Int}
    (read : vectorOfSection .c (throughDirection matrices ++ behind) = .ok found) :
    found.length = matrices.c.length := by
  rw [throughDirection, beforeDirection] at read
  simp only [List.append_assoc] at read
  rw [vectorOfSection_sectionText_of_other (by decide),
    vectorOfSection_vectorSection_of_other (by decide)] at read
  exact length_of_vectorOfSection read

end Direction

section Truncation

variable {matrices : Matrices}

/-- A dual that breaks off before the end of its last label is not read. -/
theorem ofCharacters_of_short_lines
    {restrictions : List Restriction}
    (restrictionCount : restrictions.length = matrices.c.length)
    {behind lines : List Char}
    (linesPrefix : lines <+: restrictionLines 1 restrictions)
    (texts :
      restrictionTexts (throughDirection matrices ++ behind) = restrictionTexts lines)
    (short : lines.length + 1 < (restrictionLines 1 restrictions).length) :
    ∃ error, ofCharacters (throughDirection matrices ++ behind) true = .error error := by
  cases outcome : ofCharacters (throughDirection matrices ++ behind) true with
  | error error =>
      exact ⟨error, rfl⟩
  | ok found =>
      obtain ⟨_, _, objectiveRead, _, _, restrictionsRead, agreement⟩ :=
        ofCharacters_eq_ok_iff.mp outcome
      rw [restrictionsOf, if_pos rfl, texts] at restrictionsRead
      cases linesRead : restrictionsOfLines 1 (restrictionTexts lines) with
      | error error =>
          rw [linesRead] at restrictionsRead
          cases restrictionsRead
      | ok read =>
          rw [linesRead] at restrictionsRead
          have isRead : found.varConstr = some read := by
            injection restrictionsRead with same
            exact same.symm
          have fewer := length_lt_of_short_lines linesPrefix short linesRead
          have complete := (shapeError?_eq_none_iff.mp agreement).2 read isRead
          rw [length_objective objectiveRead] at complete
          omega

theorem one_lt_length_restrictionLines
    {index : Nat}
    {restrictions : List Restriction}
    (nonempty : restrictions ≠ []) :
    1 < (restrictionLines index restrictions).length := by
  obtain ⟨restriction, rest, rfl⟩ := List.exists_cons_of_ne_nil nonempty
  rw [length_restrictionLines_cons, restrictionText]
  simp only [List.length_cons]
  omega

/-- A dual that breaks off before the end of its last label is not read. -/
theorem ofCharacters_of_missing_label
    {restrictions : List Restriction}
    (restricted : matrices.varConstr = some restrictions)
    (nonempty : restrictions ≠ [])
    (restrictionCount : restrictions.length = matrices.c.length)
    {text : List Char}
    (isPrefix : text <+: characters matrices)
    (short : text.length + 1 < (characters matrices).length) :
    ∃ error, ofCharacters text true = .error error := by
  rcases prefix_characters_cases isPrefix with ⟨within, early⟩ | ⟨behind, rfl, behindPrefix⟩
  · exact ofCharacters_of_length_lt within early
  · rw [restricted, Option.getD_some] at behindPrefix
    obtain ⟨lines, linesPrefix, texts, length, _⟩ := restrictionTexts_of_cut behindPrefix
    refine ofCharacters_of_short_lines restrictionCount linesPrefix texts ?_
    cases lines with
    | nil =>
        exact one_lt_length_restrictionLines nonempty
    | cons first others =>
        have exactly := length (List.cons_ne_nil first others)
        rw [characters_eq_throughDirection, restricted, Option.getD_some] at short
        simp only [List.length_append, List.length_cons] at short exactly ⊢
        omega

/-- A dual that breaks off behind its last label has all its restrictions. -/
theorem restrictionTexts_of_complete
    {behind : List Char}
    (isPrefix :
      behind <+: '\n' :: '\n' :: restrictionLines 1 (matrices.varConstr.getD []))
    (long : matrices.varConstr.getD [] ≠ [] →
      (restrictionLines 1 (matrices.varConstr.getD [])).length < behind.length) :
    restrictionTexts (throughDirection matrices ++ behind) =
      restrictionTexts (restrictionLines 1 (matrices.varConstr.getD [])) := by
  obtain ⟨lines, linesPrefix, texts, _, bound⟩ := restrictionTexts_of_cut isPrefix
  rw [texts]
  apply restrictionTexts_of_long_lines linesPrefix
  by_cases empty : matrices.varConstr.getD [] = []
  · simp [empty, restrictionLines]
  · have filled := long empty
    omega

/--
A dump that goes on behind the direction, and as far as the last label if it is
read as a dual, holds what the whole dump holds.
-/
theorem ofCharacters_of_complete
    {dual : Bool}
    {text : List Char}
    (isPrefix : text <+: characters matrices)
    (closed : (throughDirection matrices).length ≤ text.length)
    (labelled : dual → matrices.varConstr.getD [] ≠ [] →
      (characters matrices).length ≤ text.length + 1) :
    ofCharacters text dual = ofCharacters (characters matrices) dual := by
  rcases prefix_characters_cases isPrefix with ⟨_, early⟩ | ⟨behind, rfl, behindPrefix⟩
  · omega
  · rw [characters_eq_throughDirection] at labelled ⊢
    apply ofCharacters_throughDirection
    cases dual with
    | false =>
        rfl
    | true =>
        have complete := restrictionTexts_of_complete behindPrefix fun nonempty => by
          have long := labelled rfl nonempty
          simp only [List.length_append, List.length_cons] at long
          omega
        rw [restrictionsOf, restrictionsOf, complete, restrictionTexts_throughDirection,
          ← List.nil_append ('\n' :: _), restrictionTexts_append_lineFeed (by simp)]

/--
The beginning of the dump of representable matrices is refused or holds what the
whole dump holds. It is refused if it ends in front of the bracket that closes
the direction, and, read as a dual, if it ends in front of the last character of
the last label, which only a line feed follows. Otherwise it is not refused
unless the whole dump is.
-/
theorem read_truncated
    {matrices : Matrices}
    {dual : Bool}
    {text : String}
    (representable : matrices.Representable)
    (restricted : dual → matrices.isDual)
    (isPrefix : text.toList <+: (write matrices).toList) :
    (read text dual = read (write matrices) dual ∨
      ∃ error, read text dual = .error error) ∧
    (text.length < (throughDirection matrices).length →
      ∃ error, read text dual = .error error) ∧
    (dual → matrices.varConstr ≠ some [] → text.length + 1 < (write matrices).length →
      ∃ error, read text dual = .error error) ∧
    ((throughDirection matrices).length ≤ text.length →
      (dual → matrices.varConstr ≠ some [] →
        (write matrices).length ≤ text.length + 1) →
      read text dual = read (write matrices) dual) := by
  rw [write, String.toList_ofList] at isPrefix
  rw [← String.length_toList, ← String.length_toList, write, String.toList_ofList]
  have early (short : text.toList.length < (throughDirection matrices).length) :
      ∃ error, read text dual = .error error := by
    rcases prefix_characters_cases isPrefix with ⟨within, _⟩ | ⟨behind, shape, _⟩
    · exact ofCharacters_of_length_lt within short
    · rw [shape, List.length_append] at short
      omega
  have unlabelled (isDual : dual) (nonempty : matrices.varConstr ≠ some [])
      (short : text.toList.length + 1 < (characters matrices).length) :
      ∃ error, read text dual = .error error := by
    obtain ⟨restrictions, present⟩ := Option.isSome_iff_exists.mp (restricted isDual)
    rw [isDual]
    refine ofCharacters_of_missing_label present ?_
      (representable.restrictionCount restrictions present) isPrefix short
    rintro rfl
    exact nonempty present
  have complete (closed : (throughDirection matrices).length ≤ text.toList.length)
      (labelled : dual → matrices.varConstr ≠ some [] →
        (characters matrices).length ≤ text.toList.length + 1) :
      read text dual = read (String.ofList (characters matrices)) dual := by
    rw [read, read, String.toList_ofList]
    refine ofCharacters_of_complete isPrefix closed fun isDual nonempty => ?_
    refine labelled isDual ?_
    rintro present
    rw [present] at nonempty
    exact nonempty rfl
  refine ⟨?_, early, unlabelled, complete⟩
  by_cases short : text.toList.length < (throughDirection matrices).length
  · exact .inr (early short)
  · by_cases unfinished : dual ∧ matrices.varConstr ≠ some [] ∧
        text.toList.length + 1 < (characters matrices).length
    · exact .inr (unlabelled unfinished.1 unfinished.2.1 unfinished.2.2)
    · refine .inl (complete (Nat.le_of_not_lt short) fun isDual nonempty => ?_)
      by_contra missing
      exact unfinished ⟨isDual, nonempty, Nat.lt_of_not_le missing⟩

/-- A dump that ends within its last label is no dual, and still a primal problem. -/
theorem read_truncated_label :
    let matrices : Matrices :=
      ⟨[[2, -1]], [4], [3, 0], [.le], .max, some [.free, .nonNegative]⟩
    let text :=
      "A=[2 -1]\n\nb=[4]\n\nc=[3\n0]\n\nEqin=[-1]\n\nMinMax=[1]\n\nw_1 free\nw_2 >= "
    (∃ error, read text true = .error error) ∧
      read text false = read (write matrices) false := by
  intro matrices text
  have size : matrices.HasSize 1 2 := ⟨rfl, rfl, rfl, by decide, rfl⟩
  have representable : matrices.Representable := ⟨size, by decide, by decide⟩
  have isPrefix : text.toList <+: (write matrices).toList := by
    decide
  have restricted : true → matrices.isDual := fun _ => rfl
  have unrestricted : false → matrices.isDual := nofun
  have asDual := read_truncated representable restricted isPrefix
  have asPrimal := read_truncated representable unrestricted isPrefix
  exact ⟨asDual.2.2.1 rfl (by decide) (by decide),
    asPrimal.2.2.2 (by decide) nofun⟩

end Truncation

end LinearProgram.Dump
