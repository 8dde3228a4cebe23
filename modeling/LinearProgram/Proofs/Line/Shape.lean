import LinearProgram.Line.Lexeme
import LinearProgram.Proofs.Text.Characters

namespace LinearProgram

/-!
# The shape of a lexeme

What a lexeme is and what stands at its head decide each other. The characters
behind the head are digits, the equals sign of a relation, or letters among
which no direction keyword and no variable starts, except for the last letter
of `max` in front of a digit.
-/

/-- The keyword that gives a direction. -/
def Direction.keyword : Direction → List Char
  | .min => ['m', 'i', 'n']
  | .max => ['m', 'a', 'x']

namespace Lexeme

theorem length_keyword (direction : Direction) : direction.keyword.length = 3 := by
  cases direction <;> rfl

/-- The keywords, spelled out. -/
theorem keywords_eq :
    keywords =
      [(['s', 'u', 'b', 'j', 'e', 'c', 't', 't', 'o'], .initializer),
        (['s', '.', 't', '.'], .initializer),
        (['s', '.', 't'], .initializer),
        (['s', 't'], .initializer),
        (Direction.max.keyword, .direction .max),
        (Direction.min.keyword, .direction .min),
        (['e', 'n', 'd'], .terminator)] := rfl

/-- A keyword is compared with the text in lower case. -/
theorem startsWith_iff
    {keyword text : List Char} :
    startsWith keyword text ↔ keyword <+: text.map Char.toLower := by
  rw [startsWith, beq_iff_eq, List.prefix_iff_eq_take, List.map_take]
  exact eq_comm

theorem startsWith_cons
    (letter first : Char)
    (letters rest : List Char) :
    startsWith (letter :: letters) (first :: rest) =
      (first.toLower == letter && startsWith letters rest) := by
  rw [Bool.eq_iff_iff, startsWith_iff, Bool.and_eq_true, beq_iff_eq, startsWith_iff,
    List.map_cons, List.cons_prefix_cons]
  exact and_congr_left fun _ => eq_comm

@[simp] theorem startsWith_nil (text : List Char) : startsWith [] text := by
  simp [startsWith_iff]

@[simp] theorem startsWith_of_nil
    (letter : Char)
    (letters : List Char) :
    startsWith (letter :: letters) [] = false := by
  simp [startsWith]

/-- Whether a character is the sign of a term. -/
def isSign (character : Char) : Bool :=
  character == '+' || isMinus character

/-- A digit or a letter at the head of a lexeme, which is none of the symbols. -/
def isAlphanumeric (character : Char) : Bool :=
  character.isDigit || Text.isAlphabetic character

theorem ne_of_isAlphanumeric
    {character : Char}
    (alphanumeric : isAlphanumeric character)
    (symbol : Char)
    (noLetter : isAlphanumeric symbol = false) :
    character ≠ symbol := by
  rintro rfl
  rw [alphanumeric] at noLetter
  cases noLetter

theorem isSign_of_isAlphanumeric
    {character : Char}
    (alphanumeric : isAlphanumeric character) :
    isSign character = false := by
  have noPlus := ne_of_isAlphanumeric alphanumeric '+' (by decide +kernel)
  have noHyphen := ne_of_isAlphanumeric alphanumeric '-' (by decide +kernel)
  have noEnDash := ne_of_isAlphanumeric alphanumeric '–' (by decide +kernel)
  have noEmDash := ne_of_isAlphanumeric alphanumeric '—' (by decide +kernel)
  simp [isSign, isMinus, noPlus, noHyphen, noEnDash, noEmDash]

/-- A variable starts with a letter that a digit follows. -/
theorem startsVariable_iff
    {first : Char}
    {rest : List Char} :
    startsVariable (first :: rest) ↔
      (first = 'x' ∨ first = 'X') ∧
        ∃ digit behind, rest = digit :: behind ∧ digit.isDigit := by
  cases rest with
  | nil =>
      simp [startsVariable]
  | cons digit behind =>
      simp [startsVariable]

/-- The keywords introduce the constraints, give a direction, or end the problem. -/
theorem kind_of_mem_keywords
    {entry : List Char × TokenKind}
    (member : entry ∈ keywords) :
    entry.2 = .initializer ∨ entry = (Direction.max.keyword, .direction .max) ∨
      entry = (Direction.min.keyword, .direction .min) ∨
      entry = (['e', 'n', 'd'], .terminator) := by
  simp only [keywords_eq, List.mem_cons, List.not_mem_nil, or_false] at member
  rcases member with rfl | rfl | rfl | rfl | rfl | rfl | rfl <;> simp

/-- The shape of a lexeme by the branch that finds it. -/
inductive Shape (first : Char) (rest : List Char) : Lexeme → Prop where
  | plus (sign : first = '+') :
      Shape first rest ⟨.sign .plus, 0⟩
  | minus (sign : isMinus first) :
      Shape first rest ⟨.sign .minus, 0⟩
  | equal (symbol : first = '=') :
      Shape first rest ⟨.relation .eq, 0⟩
  | atMost (behind : List Char) (symbol : first = '<')
      (next : rest = '=' :: behind) :
      Shape first rest ⟨.relation .le, 1⟩
  | atLeast (behind : List Char) (symbol : first = '>')
      (next : rest = '=' :: behind) :
      Shape first rest ⟨.relation .ge, 1⟩
  | integer (digit : first.isDigit) :
      Shape first rest ⟨.integer, digitCount rest⟩
  | indexed (starts : startsVariable (first :: rest)) :
      Shape first rest ⟨.variable, digitCount rest⟩
  | initializer
      (keyword : List Char)
      (member : (keyword, .initializer) ∈ keywords)
      (starts : startsWith keyword (first :: rest)) :
      Shape first rest ⟨.initializer, keyword.length - 1⟩
  | direction
      (direction : Direction)
      (starts : startsWith direction.keyword (first :: rest)) :
      Shape first rest ⟨.direction direction, 2⟩
  | terminator (starts : startsWith ['e', 'n', 'd'] (first :: rest)) :
      Shape first rest ⟨.terminator, 2⟩
  | word
      (alphabetic : Text.isAlphabetic first)
      (noVariable : startsVariable (first :: rest) = false)
      (noKeyword : ∀ entry ∈ keywords, startsWith entry.1 (first :: rest) = false) :
      Shape first rest ⟨.word, wordCount rest⟩
  | stray
      (noSign : isSign first = false)
      (noEqual : first ≠ '=')
      (noRelation : first = '<' ∨ first = '>' → rest.head? ≠ some '=')
      (noDigit : first.isDigit = false)
      (noVariable : startsVariable (first :: rest) = false)
      (notAlphabetic : Text.isAlphabetic first = false) :
      Shape first rest ⟨.stray, 0⟩

/-- Every lexeme has the shape of the branch that finds it. -/
theorem ofChars_shape
    (first : Char)
    (rest : List Char) :
    Shape first rest (ofChars first rest) := by
  unfold ofChars
  split
  · next sign =>
      exact .plus (beq_iff_eq.mp sign)
  next noPlus =>
  split
  · next sign =>
      exact .minus sign
  next noMinus =>
  split
  · next symbol =>
      exact .equal (beq_iff_eq.mp symbol)
  next noEqual =>
  split
  · next symbols =>
      rw [Bool.and_eq_true, beq_iff_eq, beq_iff_eq,
        List.head?_eq_some_iff] at symbols
      obtain ⟨symbol, behind, next⟩ := symbols
      exact .atMost behind symbol next
  next noAtMost =>
  split
  · next symbols =>
      rw [Bool.and_eq_true, beq_iff_eq, beq_iff_eq,
        List.head?_eq_some_iff] at symbols
      obtain ⟨symbol, behind, next⟩ := symbols
      exact .atLeast behind symbol next
  next noAtLeast =>
  split
  · next digit =>
      exact .integer digit
  next noDigit =>
  split
  · next starts =>
      exact .indexed starts
  next noVariable =>
  split
  · next alphabetic =>
      cases found : keyword? (first :: rest) with
      | some lexeme =>
          obtain ⟨entry, search, rfl⟩ := Option.map_eq_some_iff.mp found
          have member := List.mem_of_find?_eq_some search
          have starts := List.find?_some search
          rcases kind_of_mem_keywords member with initializer | rfl | rfl | rfl
          · obtain ⟨keyword, kind⟩ := entry
            subst initializer
            exact .initializer keyword member starts
          · exact .direction .max starts
          · exact .direction .min starts
          · exact .terminator starts
      | none =>
          have noKeyword := List.find?_eq_none.mp (Option.map_eq_none_iff.mp found)
          exact .word alphabetic (by simpa using noVariable)
            (by simpa using noKeyword)
  · next notAlphabetic =>
      refine .stray ?_ ?_ ?_ ?_ ?_ ?_
      · simp_all [isSign]
      · simpa using noEqual
      · rintro (rfl | rfl) equal
        · simp [equal] at noAtMost
        · simp [equal] at noAtLeast
      · simpa using noDigit
      · simpa using noVariable
      · simpa using notAlphabetic

/-! What stands at the head of a text decides the kind of its lexeme. -/

theorem isAlphanumeric_of_isDigit
    {character : Char}
    (digit : character.isDigit) :
    isAlphanumeric character := by
  simp [isAlphanumeric, digit]

theorem isAlphanumeric_of_isAlphabetic
    {character : Char}
    (alphabetic : Text.isAlphabetic character) :
    isAlphanumeric character := by
  simp [isAlphanumeric, alphabetic]

theorem isAlphabetic_of_startsVariable
    {first : Char}
    {rest : List Char}
    (starts : startsVariable (first :: rest)) :
    Text.isAlphabetic first := by
  rcases (startsVariable_iff.mp starts).1 with rfl | rfl <;> decide +kernel

/-- Each keyword starts with a small letter, which is not that of a variable. -/
theorem head_of_mem_keywords
    {entry : List Char × TokenKind}
    (member : entry ∈ keywords) :
    ∃ letter letters, entry.1 = letter :: letters ∧ letter ≠ 'x' ∧
      97 ≤ letter.toNat ∧ letter.toNat ≤ 122 := by
  simp only [keywords_eq, List.mem_cons, List.not_mem_nil, or_false] at member
  rcases member with rfl | rfl | rfl | rfl | rfl | rfl | rfl <;>
    exact ⟨_, _, rfl, by decide, by decide, by decide⟩

theorem isAlphabetic_of_startsWith
    {entry : List Char × TokenKind}
    (member : entry ∈ keywords)
    {first : Char}
    {rest : List Char}
    (starts : startsWith entry.1 (first :: rest)) :
    Text.isAlphabetic first := by
  obtain ⟨letter, letters, shape, _, small⟩ := head_of_mem_keywords member
  rw [shape, startsWith_cons, Bool.and_eq_true, beq_iff_eq] at starts
  exact Text.isAlphabetic_of_toLower (by rw [starts.1]; exact small)

/-- No variable starts where a keyword does. -/
theorem startsVariable_of_startsWith
    {entry : List Char × TokenKind}
    (member : entry ∈ keywords)
    {first : Char}
    {rest : List Char}
    (starts : startsWith entry.1 (first :: rest)) :
    startsVariable (first :: rest) = false := by
  obtain ⟨letter, letters, shape, noX, _⟩ := head_of_mem_keywords member
  rw [shape, startsWith_cons, Bool.and_eq_true, beq_iff_eq] at starts
  rw [← Bool.not_eq_true]
  intro startsX
  have lowered : first.toLower = 'x' := by
    rcases (startsVariable_iff.mp startsX).1 with rfl | rfl <;> rfl
  exact noX (starts.1.symm.trans lowered)

theorem ofChars_plus (rest : List Char) : ofChars '+' rest = ⟨.sign .plus, 0⟩ := rfl

theorem ofChars_minus
    {first : Char}
    (sign : isMinus first)
    (rest : List Char) :
    ofChars first rest = ⟨.sign .minus, 0⟩ := by
  have noPlus : first ≠ '+' := by
    rintro rfl
    cases sign
  simp [ofChars, noPlus, sign]

theorem ofChars_equal (rest : List Char) :
    ofChars '=' rest = ⟨.relation .eq, 0⟩ := rfl

theorem ofChars_atMost (behind : List Char) :
    ofChars '<' ('=' :: behind) = ⟨.relation .le, 1⟩ := rfl

theorem ofChars_atLeast (behind : List Char) :
    ofChars '>' ('=' :: behind) = ⟨.relation .ge, 1⟩ := rfl

/-- Digits and letters pass the tests for symbols, which come first. -/
theorem ofChars_alphanumeric
    {first : Char}
    (alphanumeric : isAlphanumeric first)
    (rest : List Char) :
    ofChars first rest =
      if first.isDigit then
        ⟨.integer, digitCount rest⟩
      else if startsVariable (first :: rest) then
        ⟨.variable, digitCount rest⟩
      else if Text.isAlphabetic first then
        (keyword? (first :: rest)).getD ⟨.word, wordCount rest⟩
      else
        ⟨.stray, 0⟩ := by
  have noSign := isSign_of_isAlphanumeric alphanumeric
  rw [isSign, Bool.or_eq_false_iff] at noSign
  have noEqual := ne_of_isAlphanumeric alphanumeric '=' (by decide +kernel)
  have noLess := ne_of_isAlphanumeric alphanumeric '<' (by decide +kernel)
  have noGreater := ne_of_isAlphanumeric alphanumeric '>' (by decide +kernel)
  simp only [ofChars, noSign.1, noSign.2, beq_eq_false_iff_ne.mpr noEqual,
    beq_eq_false_iff_ne.mpr noLess, beq_eq_false_iff_ne.mpr noGreater,
    Bool.false_and, Bool.false_eq_true, if_false]

theorem ofChars_digit
    {first : Char}
    (digit : first.isDigit)
    (rest : List Char) :
    ofChars first rest = ⟨.integer, digitCount rest⟩ := by
  rw [ofChars_alphanumeric (isAlphanumeric_of_isDigit digit), if_pos digit]

theorem ofChars_variable
    {first : Char}
    {rest : List Char}
    (starts : startsVariable (first :: rest)) :
    ofChars first rest = ⟨.variable, digitCount rest⟩ := by
  have alphabetic := isAlphabetic_of_startsVariable starts
  rw [ofChars_alphanumeric (isAlphanumeric_of_isAlphabetic alphabetic),
    if_neg (by simp [Text.isDigit_of_isAlphabetic alphabetic]), if_pos starts]

/-- A keyword is preferred to a word. -/
theorem ofChars_keyword
    {first : Char}
    {rest : List Char}
    {lexeme : Lexeme}
    (found : keyword? (first :: rest) = some lexeme) :
    ofChars first rest = lexeme := by
  obtain ⟨entry, search, _⟩ := Option.map_eq_some_iff.mp found
  have member := List.mem_of_find?_eq_some search
  have starts : startsWith entry.1 (first :: rest) := by
    simpa using List.find?_some search
  have alphabetic := isAlphabetic_of_startsWith member starts
  rw [ofChars_alphanumeric (isAlphanumeric_of_isAlphabetic alphabetic),
    if_neg (by simp [Text.isDigit_of_isAlphabetic alphabetic]),
    if_neg (by simp [startsVariable_of_startsWith member starts]),
    if_pos alphabetic, found]
  rfl

/-- A lexeme is a sign exactly if its first character is one. -/
theorem isSign_ofChars
    (first : Char)
    (rest : List Char) :
    (ofChars first rest).kind.isSign = isSign first := by
  rw [Bool.eq_iff_iff]
  constructor
  · intro sign
    have shape := ofChars_shape first rest
    generalize ofChars first rest = lexeme at shape sign
    cases shape with
    | plus isPlus =>
        simp [isSign, isPlus]
    | minus isMinus =>
        simp [isSign, isMinus]
    | _ =>
        cases sign
  · intro sign
    rw [isSign, Bool.or_eq_true, beq_iff_eq] at sign
    rcases sign with rfl | minus
    · rfl
    · rw [ofChars_minus minus]
      rfl

theorem integer_ofChars_iff
    {first : Char}
    {rest : List Char} :
    (ofChars first rest).kind = .integer ↔ first.isDigit := by
  constructor
  · intro kind
    have shape := ofChars_shape first rest
    generalize ofChars first rest = lexeme at shape kind
    cases shape with
    | integer digit =>
        exact digit
    | _ =>
        cases kind
  · intro digit
    rw [ofChars_digit digit]

/-- A lexeme is a variable exactly if one starts there. -/
theorem variable_ofChars_iff
    {first : Char}
    {rest : List Char} :
    (ofChars first rest).kind = .variable ↔ startsVariable (first :: rest) := by
  constructor
  · intro kind
    have shape := ofChars_shape first rest
    generalize ofChars first rest = lexeme at shape kind
    cases shape with
    | indexed starts =>
        exact starts
    | _ =>
        cases kind
  · intro starts
    rw [ofChars_variable starts]

theorem exists_of_startsWith
    {letter : Char}
    {letters text : List Char}
    (starts : startsWith (letter :: letters) text) :
    ∃ first rest, text = first :: rest ∧ first.toLower = letter ∧
      startsWith letters rest := by
  cases text with
  | nil =>
      simp at starts
  | cons first rest =>
      rw [startsWith_cons, Bool.and_eq_true, beq_iff_eq] at starts
      exact ⟨first, rest, rfl, starts.1, starts.2⟩

/-- No keyword is in the way of a direction. -/
theorem keyword?_of_startsWith_direction
    {direction : Direction}
    {text : List Char}
    (starts : startsWith direction.keyword text) :
    keyword? text = some ⟨.direction direction, 2⟩ := by
  cases direction with
  | max =>
      obtain ⟨first, rest, rfl, lowered, _⟩ := exists_of_startsWith starts
      have others : ∀ letters, startsWith ('s' :: letters) (first :: rest) =
          false := by
        simp [startsWith_cons, lowered]
      simp only [keyword?, keywords_eq, List.find?, others, starts]
      rfl
  | min =>
      obtain ⟨first, rest, rfl, lowered, startsRest⟩ := exists_of_startsWith starts
      obtain ⟨second, behind, rfl, secondLowered, _⟩ :=
        exists_of_startsWith startsRest
      have others : ∀ letters,
          startsWith ('s' :: letters) (first :: second :: behind) = false := by
        simp [startsWith_cons, lowered]
      have noMax : startsWith Direction.max.keyword (first :: second :: behind) =
          false := by
        simp [Direction.keyword, startsWith_cons, secondLowered]
      simp only [keyword?, keywords_eq, List.find?, others, noMax, starts]
      rfl

theorem keyword?_of_startsWith_end
    {text : List Char}
    (starts : startsWith ['e', 'n', 'd'] text) :
    keyword? text = some ⟨.terminator, 2⟩ := by
  obtain ⟨first, rest, rfl, lowered, _⟩ := exists_of_startsWith starts
  have others : ∀ letter letters, letter ≠ 'e' →
      startsWith (letter :: letters) (first :: rest) = false := by
    intro letter letters differs
    simp [startsWith_cons, lowered, differs.symm]
  simp [keyword?, keywords_eq, Direction.keyword, others, starts]

/-- A lexeme is a direction exactly if its keyword starts there. -/
theorem direction_ofChars_iff
    {direction : Direction}
    {first : Char}
    {rest : List Char} :
    (ofChars first rest).kind = .direction direction ↔
      startsWith direction.keyword (first :: rest) := by
  constructor
  · intro kind
    have shape := ofChars_shape first rest
    generalize ofChars first rest = lexeme at shape kind
    cases shape with
    | direction found starts =>
        cases kind
        exact starts
    | _ =>
        cases kind
  · intro starts
    rw [ofChars_keyword (keyword?_of_startsWith_direction starts)]

theorem terminator_ofChars_iff
    {first : Char}
    {rest : List Char} :
    (ofChars first rest).kind = .terminator ↔
      startsWith ['e', 'n', 'd'] (first :: rest) := by
  constructor
  · intro kind
    have shape := ofChars_shape first rest
    generalize ofChars first rest = lexeme at shape kind
    cases shape with
    | terminator starts =>
        exact starts
    | _ =>
        cases kind
  · intro starts
    rw [ofChars_keyword (keyword?_of_startsWith_end starts)]

/-- No characters mark the end of a line. -/
theorem finish_ne_ofChars
    (first : Char)
    (rest : List Char) :
    (ofChars first rest).kind ≠ .finish := by
  intro kind
  have shape := ofChars_shape first rest
  generalize ofChars first rest = lexeme at shape kind
  cases shape <;> cases kind

end Lexeme

end LinearProgram
