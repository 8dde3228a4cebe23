import LinearProgram.Proofs.Line.Shape
import Mathlib.Tactic.IntervalCases

namespace LinearProgram.Lexeme

/-!
# The characters behind the head of a lexeme

Nothing that the head of a lexeme is looked at for is hidden behind it: no
direction keyword, no sign, and no variable, except that the last letter of
`max` may stand in front of a digit. An equals sign is hidden only as the last
character of a relation.
-/

/-- What is left of a keyword stands at the start of what is left of the text. -/
theorem startsWith_drop
    {keyword text : List Char}
    (starts : startsWith keyword text)
    (count : Nat) :
    startsWith (keyword.drop count) (text.drop count) := by
  rw [startsWith_iff] at starts ⊢
  obtain ⟨rest, same⟩ := starts
  rw [List.map_drop, ← same, List.drop_append]
  exact List.prefix_append _ _

theorem toLower_of_startsDirection
    {first : Char}
    {rest : List Char}
    (starts : startsDirection (first :: rest)) :
    first.toLower = 'm' := by
  rw [startsDirection, Bool.or_eq_true] at starts
  rcases starts with max | min
  · obtain ⟨_, _, same, lowered, _⟩ := exists_of_startsWith
      (show startsWith ['m', 'a', 'x'] (first :: rest) from max)
    cases same
    exact lowered
  · obtain ⟨_, _, same, lowered, _⟩ := exists_of_startsWith
      (show startsWith ['m', 'i', 'n'] (first :: rest) from min)
    cases same
    exact lowered

theorem toLower_of_startsVariable
    {first : Char}
    {rest : List Char}
    (starts : startsVariable (first :: rest)) :
    first.toLower = 'x' := by
  rcases (startsVariable_iff.mp starts).1 with rfl | rfl <;> rfl

/--
A character inside a lexeme, at an offset behind its head, and what follows it.
-/
inductive Interior (lexeme : Lexeme) (offset : Nat) (character : Char)
    (behind : List Char) :
    Prop where
  /-- The equals sign of a relation. -/
  | equal
      (isRelation : lexeme.kind.isRelation)
      (only : lexeme.extra = 1)
      (symbol : character = '=')
  /-- A digit of an integer or of a variable. -/
  | digit (digit : character.isDigit)
  /-- A letter or an underscore of a word. -/
  | letter
      (letter : Text.isAlphabetic character ∨ character = '_')
      (noVariable : startsVariable (character :: behind) = false)
      (noDirection : startsDirection (character :: behind) = false)
  /-- A later letter of a keyword, or a period in it. -/
  | keyword
      (letter : Text.isAlphabetic character ∨ character = '.')
      (noDirection : character.toLower ≠ 'm')
      (last : character.toLower = 'x' → lexeme = ⟨.direction .max, 2⟩ ∧ offset = 1)

theorem digit_of_lt_digitCount
    {text : List Char}
    {offset : Nat}
    (within : offset < digitCount text) :
    ∃ character behind, text.drop offset = character :: behind ∧
      character.isDigit := by
  induction text generalizing offset with
  | nil =>
      cases within
  | cons first rest inductionHypothesis =>
      rw [digitCount, List.takeWhile_cons] at within
      split at within
      · next digit =>
          cases offset with
          | zero =>
              exact ⟨first, rest, rfl, digit⟩
          | succ before =>
              exact inductionHypothesis (Nat.lt_of_succ_lt_succ within)
      · cases within

/-- A word goes on over letters at which neither a variable nor a direction starts. -/
theorem letter_of_lt_wordCount
    {text : List Char}
    {offset : Nat}
    (within : offset < wordCount text) :
    ∃ character behind, text.drop offset = character :: behind ∧
      (Text.isAlphabetic character ∨ character = '_') ∧
      startsVariable (character :: behind) = false ∧
      startsDirection (character :: behind) = false := by
  induction text generalizing offset with
  | nil =>
      cases within
  | cons first rest inductionHypothesis =>
      rw [wordCount] at within
      split at within
      · next goesOn =>
          simp only [Bool.and_eq_true, Bool.or_eq_true, beq_iff_eq,
            Bool.not_eq_true'] at goesOn
          cases offset with
          | zero =>
              exact ⟨first, rest, rfl, goesOn.1.1, goesOn.1.2, goesOn.2⟩
          | succ before =>
              exact inductionHypothesis (Nat.lt_of_succ_lt_succ within)
      · cases within

/--
What the later characters of keywords are, and where they may be those of a
variable.
-/
theorem letters_of_mem_keywords
    {entry : List Char × TokenKind}
    (member : entry ∈ keywords)
    {offset : Nat}
    (within : offset < entry.1.length - 1) :
    ∃ letter letters, entry.1.drop (offset + 1) = letter :: letters ∧
      (letter = '.' ∨ 97 ≤ letter.toNat ∧ letter.toNat ≤ 122) ∧ letter ≠ 'm' ∧
        (letter = 'x' →
          entry = (Direction.max.keyword, .direction .max) ∧ offset = 1) := by
  simp only [keywords_eq, List.mem_cons, List.not_mem_nil, or_false] at member
  rcases member with rfl | rfl | rfl | rfl | rfl | rfl | rfl <;>
    simp only [Direction.keyword, List.length_cons, List.length_nil] at within <;>
    interval_cases offset <;>
    exact ⟨_, _, rfl, by decide, by decide, by decide⟩

/-- The later characters of a text that starts with a keyword. -/
theorem letter_of_startsWith
    {entry : List Char × TokenKind}
    (member : entry ∈ keywords)
    {first : Char}
    {rest : List Char}
    (starts : startsWith entry.1 (first :: rest))
    {offset : Nat}
    (within : offset < entry.1.length - 1) :
    ∃ character behind, rest.drop offset = character :: behind ∧
      (Text.isAlphabetic character ∨ character = '.') ∧ character.toLower ≠ 'm' ∧
      (character.toLower = 'x' →
        entry = (Direction.max.keyword, .direction .max) ∧ offset = 1) := by
  obtain ⟨letter, letters, spelled, letterOrPeriod, noM, last⟩ :=
    letters_of_mem_keywords member within
  have startsBehind := startsWith_drop starts (offset + 1)
  rw [spelled, List.drop_succ_cons] at startsBehind
  obtain ⟨character, behind, shape, rfl, _⟩ := exists_of_startsWith startsBehind
  refine ⟨character, behind, shape, ?_, noM, last⟩
  rcases letterOrPeriod with period | small
  · exact .inr (Text.eq_of_toLower_eq period (by decide))
  · exact .inl (Text.isAlphabetic_of_toLower small)

/-- Behind its first letter a keyword is the inside of its lexeme. -/
theorem interior_keyword
    {entry : List Char × TokenKind}
    (member : entry ∈ keywords)
    {first : Char}
    {rest : List Char}
    (starts : startsWith entry.1 (first :: rest))
    {offset : Nat}
    (within : offset < entry.1.length - 1) :
    ∃ character behind, rest.drop offset = character :: behind ∧
      Interior ⟨entry.2, entry.1.length - 1⟩ offset character behind := by
  obtain ⟨character, behind, shape, letter, noM, last⟩ :=
    letter_of_startsWith member starts within
  refine ⟨character, behind, shape, .keyword letter noM ?_⟩
  intro isX
  obtain ⟨rfl, second⟩ := last isX
  exact ⟨rfl, second⟩

/-- Each character behind the head of a lexeme is one of the expected ones. -/
theorem interior_ofChars
    {first : Char}
    {rest : List Char}
    {offset : Nat}
    (within : offset < (ofChars first rest).extra) :
    ∃ character behind, rest.drop offset = character :: behind ∧
      Interior (ofChars first rest) offset character behind := by
  have shape := ofChars_shape first rest
  generalize ofChars first rest = lexeme at shape within ⊢
  cases shape with
  | atMost behind symbol next =>
      obtain rfl : offset = 0 := Nat.lt_one_iff.mp within
      exact ⟨'=', behind, next, .equal rfl rfl rfl⟩
  | atLeast behind symbol next =>
      obtain rfl : offset = 0 := Nat.lt_one_iff.mp within
      exact ⟨'=', behind, next, .equal rfl rfl rfl⟩
  | integer digit =>
      obtain ⟨character, behind, shape, isDigit⟩ := digit_of_lt_digitCount within
      exact ⟨character, behind, shape, .digit isDigit⟩
  | indexed starts =>
      obtain ⟨character, behind, shape, isDigit⟩ := digit_of_lt_digitCount within
      exact ⟨character, behind, shape, .digit isDigit⟩
  | initializer keyword member starts =>
      exact interior_keyword member starts within
  | direction direction starts =>
      have member : (direction.keyword, .direction direction) ∈ keywords := by
        cases direction <;> decide
      have bound : offset < direction.keyword.length - 1 := by
        rwa [length_keyword]
      have interior := interior_keyword member starts bound
      rwa [length_keyword] at interior
  | terminator starts =>
      have member : (['e', 'n', 'd'], .terminator) ∈ keywords := by
        decide
      exact interior_keyword member starts within
  | word alphabetic noVariable noKeyword =>
      obtain ⟨character, behind, shape, letter, noVariable, noDirection⟩ :=
        letter_of_lt_wordCount within
      exact ⟨character, behind, shape, .letter letter noVariable noDirection⟩
  | _ =>
      cases within

/-- No direction keyword starts behind the head of a lexeme. -/
theorem startsDirection_interior
    {first : Char}
    {rest : List Char}
    {offset : Nat}
    (within : offset < (ofChars first rest).extra) :
    startsDirection (rest.drop offset) = false := by
  obtain ⟨character, behind, shape, interior⟩ := interior_ofChars within
  rw [shape, ← Bool.not_eq_true]
  intro starts
  have lowered := toLower_of_startsDirection starts
  cases interior with
  | equal isRelation only symbol =>
      subst symbol
      cases lowered
  | digit digit =>
      rw [Text.toLower_of_isDigit digit] at lowered
      subst lowered
      cases digit
  | letter letter noVariable noDirection =>
      rw [noDirection] at starts
      cases starts
  | keyword letter noDirection last =>
      exact noDirection lowered

/--
A variable seems to start behind the head of a lexeme only at the last letter of
`max`.
-/
theorem startsVariable_interior
    {first : Char}
    {rest : List Char}
    {offset : Nat}
    (within : offset < (ofChars first rest).extra)
    (starts : startsVariable (rest.drop offset)) :
    ofChars first rest = ⟨.direction .max, 2⟩ ∧ offset = 1 := by
  obtain ⟨character, behind, shape, interior⟩ := interior_ofChars within
  rw [shape] at starts
  have lowered := toLower_of_startsVariable starts
  cases interior with
  | equal isRelation only symbol =>
      subst symbol
      cases lowered
  | digit digit =>
      rw [Text.toLower_of_isDigit digit] at lowered
      subst lowered
      cases digit
  | letter letter noVariable noDirection =>
      rw [noVariable] at starts
      cases starts
  | keyword letter noDirection last =>
      exact last lowered

end LinearProgram.Lexeme
