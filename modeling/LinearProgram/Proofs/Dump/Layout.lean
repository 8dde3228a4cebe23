import LinearProgram.Dump.Parser
import LinearProgram.Proofs.Text.Characters
import LinearProgram.Proofs.Text.Lines
import LinearProgram.Proofs.Traversal

namespace LinearProgram.Dump

/-!
# Reading what has been written

The sections of a dump are told apart by the first character of their headers,
which occurs nowhere else in the sections that precede: rows consist of digits,
hyphens and spaces. So the search for a section passes over the sections before
it, and the search for restriction lines passes over all sections.
-/

/-- The characters that the rows of a section are made of. -/
def isRowCharacter (character : Char) : Bool :=
  character.isDigit || character == '-' || character == ' '

/-- The first character of the header of a section. -/
def initial : MatrixName → Char
  | .a => 'A'
  | .b => 'b'
  | .c => 'c'
  | .eqin => 'E'
  | .minMax => 'M'
  | .varConstr => 'V'

theorem header_eq (name : MatrixName) :
    header name = initial name :: (header name).tail := by
  cases name <;> rfl

theorem ofInt_ne_nil (value : Int) : Numeral.ofInt value ≠ [] := by
  cases value <;> simp [Numeral.ofInt, Numeral.ofNat, Nat.toDigits_ne_nil]

/-- A written number consists of digits, after a hyphen if it is negative. -/
theorem mem_ofInt
    {value : Int}
    {character : Char}
    (member : character ∈ Numeral.ofInt value) :
    character.isDigit ∨ character = '-' := by
  cases value with
  | ofNat number =>
      exact .inl (Numeral.isDigit_of_mem_ofNat number member)
  | negSucc predecessor =>
      rcases List.mem_cons.mp member with isHyphen | inDigits
      · exact .inr isHyphen
      · exact .inl (Numeral.isDigit_of_mem_ofNat _ inDigits)

theorem isBlank_of_mem_ofInt
    {value : Int}
    {character : Char}
    (member : character ∈ Numeral.ofInt value) :
    Text.isBlank character = false := by
  rcases mem_ofInt member with isDigit | rfl
  · exact Text.isBlank_of_isDigit isDigit
  · decide

/-- A row is written with digits, hyphens and spaces alone. -/
theorem isRowCharacter_of_mem_rowText
    {row : List Int}
    {character : Char}
    (member : character ∈ rowText row) :
    isRowCharacter character := by
  rcases Text.mem_intercalate_singleton member
      with rfl | ⟨written, writtenMember, inWritten⟩
  · decide
  · obtain ⟨value, _, rfl⟩ := List.mem_map.mp writtenMember
    rcases mem_ofInt inWritten with isDigit | rfl
    · simp [isRowCharacter, isDigit]
    · decide

/-- A row with an entry is not blank. -/
theorem rowText_not_blank
    {row : List Int}
    (nonempty : row ≠ []) :
    (rowText row).all Text.isBlank = false := by
  obtain ⟨entry, rest, rfl⟩ := List.exists_cons_of_ne_nil nonempty
  obtain ⟨character, others, shape⟩ :=
    List.exists_cons_of_ne_nil (ofInt_ne_nil entry)
  have notBlank : Text.isBlank character = false :=
    isBlank_of_mem_ofInt (by rw [shape]; exact List.mem_cons_self)
  cases rest with
  | nil =>
      simp [rowText, shape, notBlank]
  | cons next behind =>
      simp [rowText, shape, notBlank]

/-- A row that is written reads back. -/
theorem rowOfLine_rowText
    {row : List Int}
    (inRange : ∀ entry ∈ row, Numeral.minValue ≤ entry ∧ entry ≤ Numeral.maxValue)
    (name : MatrixName) :
    rowOfLine name (rowText row) = .ok row := by
  have words : Text.words (rowText row) = row.map Numeral.ofInt := by
    apply Text.words_intercalate
    · intro written member
      obtain ⟨value, _, rfl⟩ := List.mem_map.mp member
      exact ofInt_ne_nil value
    · intro written member character inWritten
      obtain ⟨value, _, rfl⟩ := List.mem_map.mp member
      exact isBlank_of_mem_ofInt inWritten
  rw [rowOfLine, words]
  apply mapM_map_eq_ok
  intro entry member
  obtain ⟨notBelow, notAbove⟩ := inRange entry member
  rw [valueOfWord, Numeral.value?_ofInt notBelow notAbove]

section Search

variable {text : List Char} {rows : List (List Char)}

/-- A search passes over lines without the first character of what it looks for. -/
theorem afterHeader?_skip
    {first : Char}
    {others before : List Char}
    (absent : first ∉ before)
    (notFeed : first ≠ '\n')
    (atStart : Bool)
    (rest : List Char) :
    afterHeader? (first :: others) atStart (before ++ '\n' :: rest) =
      afterHeader? (first :: others) true rest := by
  induction before generalizing atStart with
  | nil =>
      simp [afterHeader?, List.isPrefixOf, notFeed]
  | cons character behind inductionHypothesis =>
      have different : first ≠ character := by
        rintro rfl
        exact absent List.mem_cons_self
      simp only [List.cons_append, afterHeader?, List.isPrefixOf,
        beq_false_of_ne different, Bool.false_and, Bool.and_false,
        Bool.false_eq_true, if_false]
      exact inductionHypothesis
        (fun member => absent (List.mem_cons_of_mem _ member)) _

/-- A search at the start of a line finds what is there. -/
theorem afterHeader?_found
    {first : Char}
    (others rest : List Char) :
    afterHeader? (first :: others) true (first :: others ++ rest) = some rest := by
  have found : (first :: others).isPrefixOf (first :: (others ++ rest)) = true :=
    List.isPrefixOf_iff_prefix.mpr ⟨rest, rfl⟩
  simp [afterHeader?, found]

/-- What a search has found stands behind the header. -/
theorem eq_append_of_afterHeader?
    {header rest : List Char}
    {atStart : Bool}
    (found : afterHeader? header atStart text = some rest) :
    ∃ before, text = before ++ header ++ rest := by
  induction text generalizing atStart with
  | nil =>
      cases found
  | cons character behind inductionHypothesis =>
      rw [afterHeader?] at found
      split at found
      · next starts =>
          rw [Bool.and_eq_true, List.isPrefixOf_iff_prefix] at starts
          obtain ⟨others, shape⟩ := starts.2
          rw [← shape, List.drop_left, Option.some.injEq] at found
          exact ⟨[], by rw [← shape, found, List.nil_append]⟩
      · obtain ⟨before, shape⟩ := inductionHypothesis found
        exact ⟨character :: before, by rw [shape]; rfl⟩

/--
A section is the line that ends it behind text that holds the header, rows and a
bracket.
-/
theorem sectionText_append (name : MatrixName) (rows : List (List Char))
    (text : List Char) :
    sectionText name rows ++ text =
      (header name ++ List.intercalate ['\n'] rows ++ [']', '\n']) ++
        '\n' :: text := by
  simp [sectionText]

/--
A character of a section that is not in its header stands in a row or next to
one.
-/
theorem not_mem_section
    {name : MatrixName}
    (plain : ∀ row ∈ rows, ∀ character ∈ row, isRowCharacter character)
    {character : Char}
    (notInHeader : character ∉ header name)
    (notInRow : isRowCharacter character = false)
    (notFeed : character ≠ '\n')
    (notBracket : character ≠ ']') :
    character ∉ header name ++ List.intercalate ['\n'] rows ++ [']', '\n'] := by
  intro member
  simp only [List.mem_append, List.mem_cons, List.not_mem_nil, or_false] at member
  rcases member with (inHeader | inRows) | isBracket | isFeed
  · exact notInHeader inHeader
  · rcases Text.mem_intercalate_singleton inRows
        with isFeed | ⟨row, rowMember, inRow⟩
    · exact notFeed isFeed
    · rw [plain row rowMember character inRow] at notInRow
      cases notInRow
  · exact notBracket isBracket
  · exact notFeed isFeed

/--
A section is looked for behind a section that lacks the first character of its
header.
-/
theorem body_sectionText_of_other
    {name other : MatrixName}
    (plain : ∀ row ∈ rows, ∀ character ∈ row, isRowCharacter character)
    (absent : initial name ∉ header other) :
    body name (sectionText other rows ++ text) = body name text := by
  have notInSection :
      initial name ∉ header other ++ List.intercalate ['\n'] rows ++ [']', '\n'] :=
    not_mem_section plain absent (by cases name <;> decide)
      (by cases name <;> decide)
      (by cases name <;> decide)
  rw [body, body, sectionText_append, header_eq name,
    afterHeader?_skip notInSection (by cases name <;> decide)]

/-- The body of a section goes up to its first closing bracket. -/
theorem body_header_append
    {name : MatrixName}
    {content : List Char}
    (unclosed : ']' ∉ content) :
    body name (header name ++ content ++ ']' :: text) = .ok content := by
  have unbracketed : ∀ character ∈ content, (character != ']') = true := by
    intro character member
    rw [bne_iff_ne]
    rintro rfl
    exact unclosed member
  have shape :
      header name ++ content ++ ']' :: text =
        initial name :: (header name).tail ++ (content ++ ']' :: text) := by
    rw [← header_eq, List.append_assoc]
  rw [body, shape, header_eq name, List.tail_cons, afterHeader?_found]
  simp only [List.contains_append, List.contains_cons, beq_self_eq_true,
    Bool.true_or, Bool.or_true, if_true]
  rw [List.takeWhile_append_of_pos unbracketed]
  simp

/-- No row of a section closes it. -/
theorem not_mem_rows
    (plain : ∀ row ∈ rows, ∀ character ∈ row, isRowCharacter character) :
    ']' ∉ List.intercalate ['\n'] rows := by
  intro member
  rcases Text.mem_intercalate_singleton member with isFeed | ⟨row, rowMember, inRow⟩
  · cases isFeed
  · exact absurd (plain row rowMember ']' inRow) (by decide)

/-- The body of a section consists of its rows. -/
theorem body_sectionText_self
    {name : MatrixName}
    (plain : ∀ row ∈ rows, ∀ character ∈ row, isRowCharacter character) :
    body name (sectionText name rows ++ text) =
      .ok (List.intercalate ['\n'] rows) := by
  have shape :
      sectionText name rows ++ text =
        header name ++ List.intercalate ['\n'] rows ++
          ']' :: ('\n' :: '\n' :: text) := by
    simp [sectionText]
  rw [shape, body_header_append (not_mem_rows plain)]

/-- Restriction lines are looked for behind lines that lack their first character. -/
theorem restrictionTexts_append_lineFeed
    {before : List Char}
    (absent : 'w' ∉ before)
    (rest : List Char) :
    restrictionTexts (before ++ '\n' :: rest) = restrictionTexts rest := by
  have noneBefore :
      ((Text.splitWhere (· == '\n') before).map Text.dropReturn).filter
        (fun line => ['w', '_'].isPrefixOf line) = [] := by
    rw [List.filter_eq_nil_iff]
    intro line member startsRestriction
    obtain ⟨piece, pieceMember, rfl⟩ := List.mem_map.mp member
    obtain ⟨behind, shape⟩ := List.isPrefixOf_iff_prefix.mp startsRestriction
    have inLine : 'w' ∈ Text.dropReturn piece := by
      rw [← shape]
      exact List.mem_cons_self
    exact absent (Text.mem_of_mem_splitWhere pieceMember
      (Text.mem_of_mem_dropReturn inLine)).1
  rw [restrictionTexts, restrictionTexts, Text.lines_append_lineFeed,
    List.filter_append, noneBefore, List.nil_append]

/-- Restriction lines are looked for behind a section. -/
theorem restrictionTexts_sectionText
    {name : MatrixName}
    (plain : ∀ row ∈ rows, ∀ character ∈ row, isRowCharacter character) :
    restrictionTexts (sectionText name rows ++ text) = restrictionTexts text := by
  have absent :
      'w' ∉ header name ++ List.intercalate ['\n'] rows ++ [']', '\n'] :=
    not_mem_section plain (by cases name <;> decide) (by decide) (by decide)
      (by decide)
  rw [sectionText_append, restrictionTexts_append_lineFeed absent]

end Search

/-- Rows that are not blank are the lines of a section that count. -/
theorem filledLines_intercalate
    {rows : List (List Char)}
    (plain : ∀ row ∈ rows, ∀ character ∈ row, isRowCharacter character)
    (filled : ∀ row ∈ rows, row.all Text.isBlank = false) :
    filledLines (List.intercalate ['\n'] rows) = rows := by
  have lines : Text.lines (List.intercalate ['\n'] rows) = rows := by
    apply Text.lines_intercalate
    · rintro row member rfl
      exact absurd (filled [] member) (by decide)
    · intro row member isFeed
      exact absurd (plain row member '\n' isFeed) (by decide)
    · intro row member isReturn
      exact absurd (plain row member '\r' isReturn) (by decide)
  rw [filledLines, lines, List.filter_eq_self]
  intro row member
  simp [filled row member]

section Sections

variable {name : MatrixName} {text : List Char}

/-- So no row has a bracket, a letter or a line end in it. -/
theorem plain_rowTexts (rows : List (List Int)) :
    ∀ row ∈ rows.map rowText, ∀ character ∈ row, isRowCharacter character := by
  intro written member character inWritten
  obtain ⟨row, _, rfl⟩ := List.mem_map.mp member
  exact isRowCharacter_of_mem_rowText inWritten

/-- A vector is written as rows of one entry each. -/
theorem vectorSection_eq (name : MatrixName) (entries : List Int) :
    vectorSection name entries =
      sectionText name ((entries.map fun entry => [entry]).map rowText) := by
  simp [vectorSection, rowText, Function.comp_def]

/-- A matrix whose rows have entries reads back from its section. -/
theorem rowsOfSection_sectionText
    {rows : List (List Int)}
    (nonempty : ∀ row ∈ rows, row ≠ [])
    (inRange : ∀ row ∈ rows, ∀ entry ∈ row,
      Numeral.minValue ≤ entry ∧ entry ≤ Numeral.maxValue) :
    rowsOfSection name (sectionText name (rows.map rowText) ++ text) =
      .ok rows := by
  have filled : ∀ row ∈ rows.map rowText, row.all Text.isBlank = false := by
    intro written member
    obtain ⟨row, rowMember, rfl⟩ := List.mem_map.mp member
    exact rowText_not_blank (nonempty row rowMember)
  rw [rowsOfSection, bind_eq_ok_iff]
  refine ⟨_, body_sectionText_self (plain_rowTexts rows), ?_⟩
  rw [filledLines_intercalate (plain_rowTexts rows) filled]
  exact mapM_map_eq_ok fun row member => rowOfLine_rowText (inRange row member) name

/-- A vector reads back from its section. -/
theorem vectorOfSection_vectorSection
    {entries : List Int}
    (inRange : ∀ entry ∈ entries,
      Numeral.minValue ≤ entry ∧ entry ≤ Numeral.maxValue) :
    vectorOfSection name (vectorSection name entries ++ text) = .ok entries := by
  have filled :
      ∀ row ∈ (entries.map fun entry => [entry]).map rowText,
        row.all Text.isBlank = false := by
    intro written member
    obtain ⟨row, rowMember, rfl⟩ := List.mem_map.mp member
    obtain ⟨entry, _, rfl⟩ := List.mem_map.mp rowMember
    exact rowText_not_blank (List.cons_ne_nil entry [])
  rw [vectorOfSection, vectorSection_eq, bind_eq_ok_iff]
  refine ⟨_, body_sectionText_self (plain_rowTexts _), ?_⟩
  rw [filledLines_intercalate (plain_rowTexts _) filled, List.map_map]
  apply mapM_map_eq_ok
  intro entry member
  rw [entryOfLine, bind_eq_ok_iff]
  exact ⟨[entry], rowOfLine_rowText (by simpa using inRange entry member) name, rfl⟩

/--
A vector is looked for behind a section that lacks the first character of its
header.
-/
theorem vectorOfSection_sectionText_of_other
    {other : MatrixName}
    {rows : List (List Int)}
    (absent : initial name ∉ header other) :
    vectorOfSection name (sectionText other (rows.map rowText) ++ text) =
      vectorOfSection name text := by
  rw [vectorOfSection, vectorOfSection,
    body_sectionText_of_other (plain_rowTexts rows) absent]

theorem vectorOfSection_vectorSection_of_other
    {other : MatrixName}
    {entries : List Int}
    (absent : initial name ∉ header other) :
    vectorOfSection name (vectorSection other entries ++ text) =
      vectorOfSection name text := by
  rw [vectorSection_eq, vectorOfSection_sectionText_of_other absent]

/-- A section of entries has no lines of restrictions. -/
theorem restrictionTexts_vectorSection
    {other : MatrixName}
    {entries : List Int} :
    restrictionTexts (vectorSection other entries ++ text) =
      restrictionTexts text := by
  rw [vectorSection_eq, restrictionTexts_sectionText (plain_rowTexts _)]

end Sections

/-- The line of a restriction, without the line feed that ends it. -/
def restrictionText (index : Nat) (restriction : Restriction) : List Char :=
  'w' :: '_' :: (Numeral.ofNat index ++ ' ' :: restriction.label.toList)

theorem restrictionLine_eq (index : Nat) (restriction : Restriction) :
    restrictionLine index restriction = restrictionText index restriction ++ ['\n'] := by
  simp [restrictionLine, restrictionText]

theorem ne_of_mem_ofNat
    {index : Nat}
    {character mark : Char}
    (member : character ∈ Numeral.ofNat index)
    (notDigit : mark.isDigit = false) :
    character ≠ mark := by
  rintro rfl
  rw [Numeral.isDigit_of_mem_ofNat index member] at notDigit
  cases notDigit

/-- The line of a restriction holds no line break. -/
theorem not_mem_restrictionText
    {character : Char}
    (isBreak : character = '\n' ∨ character = '\r')
    (index : Nat)
    (restriction : Restriction) :
    character ∉ restrictionText index restriction := by
  intro member
  simp only [restrictionText, List.mem_cons, List.mem_append] at member
  rcases member with isMark | isMark | inNumeral | isMark | inLabel
  · subst isMark
    revert isBreak
    decide
  · subst isMark
    revert isBreak
    decide
  · refine ne_of_mem_ofNat inNumeral ?_ rfl
    rcases isBreak with rfl | rfl <;> rfl
  · subst isMark
    revert isBreak
    decide
  · revert inLabel
    rcases isBreak with rfl | rfl <;> cases restriction <;> decide

theorem restrictionTexts_restrictionText
    (index : Nat)
    (restriction : Restriction)
    (rest : List Char) :
    restrictionTexts (restrictionText index restriction ++ '\n' :: rest) =
      restrictionText index restriction :: restrictionTexts rest := by
  rw [restrictionTexts, Text.lines_line_append
    (not_mem_restrictionText (.inl rfl) index restriction)
    (not_mem_restrictionText (.inr rfl) index restriction)]
  simp [restrictionTexts, restrictionText, List.isPrefixOf]

/-- A line is cut into the numeral and the label at its first space. -/
theorem restrictionOfLine?_numeral
    {index : Nat}
    (number : Nat)
    (label : List Char) :
    restrictionOfLine? index ('w' :: '_' :: (Numeral.ofNat number ++ ' ' :: label)) =
      if Numeral.index? (Numeral.ofNat number) = some index then
        Restriction.ofLabel? (String.ofList label)
      else
        none := by
  have numeral : ∀ character ∈ Numeral.ofNat number, (character != ' ') = true := by
    intro character member
    rw [bne_iff_ne]
    exact ne_of_mem_ofNat member rfl
  unfold restrictionOfLine?
  simp only [List.drop_succ_cons, List.drop_zero]
  rw [List.takeWhile_append_of_pos numeral, List.dropWhile_append_of_pos numeral]
  simp

/-- A restriction that has been written is read under its own number. -/
theorem restrictionOfLine?_written
    {index : Nat}
    (fits : index ≤ Numeral.maxIndex)
    (restriction : Restriction) :
    restrictionOfLine? index (restrictionText index restriction) = some restriction := by
  rw [restrictionText, restrictionOfLine?_numeral, Numeral.index?_ofNat fits, if_pos rfl,
    String.ofList_toList, Restriction.ofLabel?_label]

/--
Restrictions that are written read back, as long as their indices fit 64 bits.
-/
theorem restrictionsOfLines_restrictionLines
    {index : Nat}
    {restrictions : List Restriction}
    (fits : index + restrictions.length ≤ Numeral.maxIndex + 1) :
    restrictionsOfLines index
      (restrictionTexts (restrictionLines index restrictions)) =
      .ok restrictions := by
  induction restrictions generalizing index with
  | nil =>
      rfl
  | cons restriction rest inductionHypothesis =>
      have restFits : index + 1 + rest.length ≤ Numeral.maxIndex + 1 := by
        simp only [List.length_cons] at fits
        omega
      have indexFits : index ≤ Numeral.maxIndex := by
        simp only [List.length_cons] at fits
        omega
      rw [restrictionLines, restrictionLine_eq, List.append_assoc,
        List.singleton_append, restrictionTexts_restrictionText, restrictionsOfLines,
        restrictionOfLine?_written indexFits]
      exact bind_eq_ok_iff.mpr ⟨rest, inductionHypothesis restFits, rfl⟩

end LinearProgram.Dump
