import LinearProgram.Proofs.Line.Scan

namespace LinearProgram.Lexeme

/-!
# Where one lexeme ends and another may start

Numbers take in all the digits there are, and a relation takes in its equals
sign. So no direction keyword lies across a place between two lexemes, no number
goes on behind it, and no equals sign behind it completes a relation
(`Seam.lexeme`).
-/

/-- Whether digits behind a cut belong to a number that starts before it. -/
def numberGoesOn (cut : List Char × List Char) : Bool :=
  cut.1.getLast?.any fun last => last.isDigit || variableAt (cut.1.dropLast, last :: cut.2)

@[simp] theorem numberGoesOn_concat
    (before : List Char)
    (last : Char)
    (after : List Char) :
    numberGoesOn (before ++ [last], after) =
      (last.isDigit || variableAt (before, last :: after)) := by
  simp [numberGoesOn]

/-- Whether an equals sign behind a character completes a relation. -/
def awaitsEqual (character : Char) : Bool :=
  character == '<' || character == '>'

theorem awaitsEqual_iff
    {character : Char} :
    awaitsEqual character ↔ character = '<' ∨ character = '>' := by
  rw [awaitsEqual, Bool.or_eq_true, beq_iff_eq, beq_iff_eq]

/-- A place between two lexemes, told from the text around it. -/
structure Seam (before after : List Char) : Prop where
  direction : Boundary before after
  number : after.head?.any Char.isDigit → numberGoesOn (before, after) = false
  relation : after.head? = some '=' → before.getLast?.any awaitsEqual = false

theorem Seam.start (text : List Char) : Seam [] text where
  direction := .start text
  number _ := rfl
  relation _ := rfl

theorem not_isDigit_of_isBlank
    {character : Char}
    (blank : Text.isBlank character) :
    character.isDigit = false := by
  rw [← Bool.not_eq_true]
  intro digit
  rw [Text.isBlank_of_isDigit digit] at blank
  cases blank

/-- Nothing goes on behind a blank. -/
theorem Seam.blank
    {first : Char}
    (blank : Text.isBlank first)
    (before rest : List Char) :
    Seam (before ++ [first]) rest where
  direction := .blank blank before rest
  number _ := by
    rw [numberGoesOn_concat, not_isDigit_of_isBlank blank,
      locates_variable.blank before rest blank]
    rfl
  relation _ := by
    rw [List.getLast?_concat, Option.any_some, ← Bool.not_eq_true, awaitsEqual_iff]
    rintro (rfl | rfl) <;> cases blank

section Numbers

variable {first : Char} {rest : List Char}

/-- Whether a token is a numeral or ends with one. -/
def isNumber (kind : TokenKind) : Bool :=
  kind == .integer || kind == .variable

/-- No digit follows a run of digits. -/
theorem noDigit_behind_digitCount (text : List Char) :
    (text.drop (digitCount text)).head?.any Char.isDigit = false := by
  induction text with
  | nil =>
      rfl
  | cons first rest inductionHypothesis =>
      rw [digitCount, List.takeWhile_cons]
      split
      · exact inductionHypothesis
      · next noDigit =>
          simpa using noDigit

/-- A number takes all digits behind its head. -/
theorem extra_of_isNumber
    (number : isNumber (ofChars first rest).kind) :
    (ofChars first rest).extra = digitCount rest := by
  rw [isNumber, Bool.or_eq_true, beq_iff_eq, beq_iff_eq] at number
  rcases number with integer | isVariable
  · rw [ofChars_digit (integer_ofChars_iff.mp integer)]
  · rw [ofChars_variable (variable_ofChars_iff.mp isVariable)]

/-- A number takes in all the digits there are. -/
theorem noDigit_behind_number
    (number : isNumber (ofChars first rest).kind) :
    (rest.drop (ofChars first rest).extra).head?.any Char.isDigit = false := by
  rw [extra_of_isNumber number]
  exact noDigit_behind_digitCount rest

theorem not_isDigit_of_letter
    {character symbol : Char}
    (letter : Text.isAlphabetic character ∨ character = symbol)
    (noDigit : symbol.isDigit = false) :
    character.isDigit = false := by
  rcases letter with alphabetic | rfl
  · exact Text.isDigit_of_isAlphabetic alphabetic
  · exact noDigit

/-- Only numbers have digits behind their heads. -/
theorem isNumber_of_digit_interior
    {offset : Nat}
    (within : offset < (ofChars first rest).extra)
    {character : Char}
    {behind : List Char}
    (shape : rest.drop offset = character :: behind)
    (digit : character.isDigit) :
    isNumber (ofChars first rest).kind := by
  have noKeyword
      {entry : List Char × TokenKind}
      (member : entry ∈ keywords)
      (starts : startsWith entry.1 (first :: rest))
      (inKeyword : offset < entry.1.length - 1) : False := by
    obtain ⟨other, _, same, letter, _⟩ := letter_of_startsWith member starts inKeyword
    rw [shape] at same
    cases same
    rw [not_isDigit_of_letter letter rfl] at digit
    cases digit
  have found := ofChars_shape first rest
  generalize ofChars first rest = lexeme at found within ⊢
  cases found with
  | atMost behind symbol next =>
      obtain rfl : offset = 0 := Nat.lt_one_iff.mp within
      rw [next] at shape
      cases shape
      cases digit
  | atLeast behind symbol next =>
      obtain rfl : offset = 0 := Nat.lt_one_iff.mp within
      rw [next] at shape
      cases shape
      cases digit
  | integer _ => rfl
  | indexed _ => rfl
  | initializer keyword member starts =>
      exact (noKeyword member starts within).elim
  | direction direction starts =>
      have member : (direction.keyword, .direction direction) ∈ keywords := by
        cases direction <;> decide
      exact (noKeyword member starts (by rwa [length_keyword])).elim
  | terminator starts =>
      have member : (['e', 'n', 'd'], .terminator) ∈ keywords := by
        decide
      exact (noKeyword member starts within).elim
  | word alphabetic noVariable noKeyword =>
      obtain ⟨other, _, same, letter, _⟩ := letter_of_lt_wordCount within
      rw [shape] at same
      cases same
      rw [not_isDigit_of_letter letter rfl] at digit
      cases digit
  | _ =>
      cases within

/-- The digits inside a number belong to it. -/
theorem numberGoesOn_interior
    {before : List Char}
    (boundary : Boundary before (first :: rest))
    (number : isNumber (ofChars first rest).kind)
    {offset : Nat}
    (within : offset < (ofChars first rest).extra) :
    numberGoesOn (before ++ first :: rest.take offset, rest.drop offset) := by
  cases offset with
  | zero =>
      rw [isNumber, Bool.or_eq_true] at number
      rw [List.take_zero, List.drop_zero, numberGoesOn_concat,
        locates_variable.head boundary, Bool.or_eq_true]
      rcases number with integer | isVariable
      · exact .inl (integer_ofChars_iff.mp (beq_iff_eq.mp integer))
      · exact .inr isVariable
  | succ offset =>
      have inDigits : offset < digitCount rest := by
        rw [extra_of_isNumber number] at within
        exact Nat.lt_of_succ_lt within
      obtain ⟨digit, behind, shape, isDigit⟩ := digit_of_lt_digitCount inDigits
      have inRest : offset < rest.length :=
        List.length_lt_of_drop_ne_nil (by simp [shape])
      rw [List.drop_eq_getElem_cons inRest] at shape
      cases shape
      rw [List.take_succ_eq_append_getElem inRest, ← List.cons_append,
        ← List.append_assoc, numberGoesOn_concat, isDigit]
      rfl

end Numbers

section Last

/-- The last character of a lexeme is its head or stands behind it. -/
theorem exists_last (first : Char) (rest : List Char) :
    (ofChars first rest).extra = 0 ∨
      ∃ offset last, offset < (ofChars first rest).extra ∧
        rest.drop offset = last :: rest.drop (ofChars first rest).extra ∧
        rest.take (ofChars first rest).extra = rest.take offset ++ [last] := by
  cases isExtra : (ofChars first rest).extra with
  | zero =>
      exact .inl rfl
  | succ offset =>
      obtain ⟨character, behind, shape, _⟩ :=
        @interior_ofChars first rest offset (by omega)
      have inRest : offset < rest.length :=
        List.length_lt_of_drop_ne_nil (by simp [shape])
      exact .inr ⟨offset, rest[offset], Nat.lt_succ_self offset,
        List.drop_eq_getElem_cons inRest, List.take_succ_eq_append_getElem inRest⟩

variable {before : List Char} {first : Char} {rest : List Char}

/-- Behind a lexeme that is not a number, digits start a number of their own. -/
theorem numberGoesOn_lexeme
    (boundary : Boundary before (first :: rest))
    (noNumber : isNumber (ofChars first rest).kind = false) :
    numberGoesOn
        (before ++ first :: rest.take (ofChars first rest).extra,
          rest.drop (ofChars first rest).extra) =
      false := by
  rcases exists_last first rest with single | ⟨offset, last, within, shape, taken⟩
  · rw [isNumber, Bool.or_eq_false_iff] at noNumber
    have noDigit : first.isDigit = false := by
      rw [← Bool.not_eq_true, ← @integer_ofChars_iff first rest]
      exact beq_eq_false_iff_ne.mp noNumber.1
    rw [single, List.take_zero, List.drop_zero, numberGoesOn_concat, noDigit,
      locates_variable.head boundary, noNumber.2]
    rfl
  · have noDigit : last.isDigit = false := by
      rw [← Bool.not_eq_true]
      intro digit
      rw [isNumber_of_digit_interior within shape digit] at noNumber
      cases noNumber
    rw [taken, ← List.cons_append, ← List.append_assoc, numberGoesOn_concat, noDigit,
      ← shape, locates_variable.interior before within]
    rfl

/-- A relation takes in its equals sign. -/
theorem awaitsEqual_lexeme
    (equal : (rest.drop (ofChars first rest).extra).head? = some '=') :
    (before ++ first :: rest.take (ofChars first rest).extra).getLast?.any
        awaitsEqual =
      false := by
  rw [← Bool.not_eq_true]
  rcases exists_last first rest with single | ⟨offset, last, within, shape, taken⟩
  · rw [single, List.drop_zero] at equal
    obtain ⟨behind, rfl⟩ := List.head?_eq_some_iff.mp equal
    rw [single, List.take_zero, List.getLast?_concat, Option.any_some, awaitsEqual_iff]
    rintro (rfl | rfl) <;> cases single
  · obtain ⟨character, behind, same, interior⟩ := interior_ofChars within
    rw [shape] at same
    cases same
    rw [taken, ← List.cons_append, ← List.append_assoc, List.getLast?_concat,
      Option.any_some, awaitsEqual_iff]
    intro awaits
    cases interior with
    | equal isRelation only symbol =>
        rcases awaits with rfl | rfl <;> cases symbol
    | digit digit =>
        rcases awaits with rfl | rfl <;> cases digit
    | letter letter noVariable noDirection =>
        rcases awaits with rfl | rfl <;> exact absurd letter (by decide +kernel)
    | keyword letter noDirection last =>
        rcases awaits with rfl | rfl <;> exact absurd letter (by decide +kernel)

/-- A lexeme that starts at a seam ends at one. -/
theorem Seam.lexeme (seam : Seam before (first :: rest)) :
    Seam (before ++ first :: rest.take (ofChars first rest).extra)
      (rest.drop (ofChars first rest).extra) where
  direction := seam.direction.lexeme
  number digit := by
    cases isNumber : isNumber (ofChars first rest).kind with
    | true =>
        rw [noDigit_behind_number isNumber] at digit
        cases digit
    | false =>
        exact numberGoesOn_lexeme seam.direction isNumber
  relation := awaitsEqual_lexeme

end Last

end LinearProgram.Lexeme
