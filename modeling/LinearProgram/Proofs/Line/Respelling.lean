import LinearProgram.Proofs.Line.Numbers
import LinearProgram.Proofs.Text.Respelling
import LinearProgram.Proofs.Traversal
import Mathlib.Data.List.Find

namespace LinearProgram

/-!
# The tokens of other spellings

Two spellings of a line have the same lexemes, each with as many characters in
one as in the other. A dash takes more bytes than a hyphen, so the tokens may
stand at different positions, which is why positions are left out when tokens are
compared. The texts of tokens matter only where a number is read from them.
-/

namespace Lexeme

open Text (Interchangeable)

theorem ignoresCase_isMinus : Text.IgnoresCase isMinus := by
  intro character
  have hyphen := Text.ignoresCase_beq '-' (by decide +kernel) character
  have enDash := Text.ignoresCase_beq '–' (by decide +kernel) character
  have emDash := Text.ignoresCase_beq '—' (by decide +kernel) character
  simp only [isMinus, hyphen, enDash, emDash]

theorem beq_dash
    {symbol : Char}
    (noDash : symbol ∉ Text.dashes) :
    ∀ dash ∈ Text.dashes, (dash == symbol) = ('-' == symbol) := by
  intro dash isDash
  have dashApart : dash ≠ symbol := fun same => noDash (same ▸ isDash)
  have hyphenApart : '-' ≠ symbol := fun same => noDash (same ▸ List.mem_cons_self)
  rw [beq_eq_false_iff_ne.mpr dashApart, beq_eq_false_iff_ne.mpr hyphenApart]

/-- The letter of a variable may be a capital. -/
theorem isIndexed_eq (letter : Char) :
    (letter == 'x' || letter == 'X') = (letter.toLower == 'x') := by
  rw [Bool.eq_iff_iff, Bool.or_eq_true, beq_iff_eq, beq_iff_eq, beq_iff_eq]
  constructor
  · rintro (rfl | rfl) <;> rfl
  · intro lowered
    rcases Text.toNat_toLower letter with ⟨unchanged, _⟩ | ⟨_, _, shifted⟩
    · exact .inl (unchanged.symm.trans lowered)
    · rw [lowered] at shifted
      exact .inr (Char.toNat_inj.mp (by simpa using shifted.symm))

section Characters

variable {first other : Char} (alike : Interchangeable first other)

include alike

/-- Symbols that are no dashes are told apart from all other characters. -/
theorem beq_congr
    (symbol : Char)
    (noLetter : Text.isAlphabetic symbol = false)
    (noDash : symbol ∉ Text.dashes) :
    (first == symbol) = (other == symbol) :=
  alike.congr (Text.ignoresCase_beq symbol noLetter) (beq_dash noDash)

theorem isMinus_congr : isMinus first = isMinus other :=
  alike.congr ignoresCase_isMinus (Text.forall_mem_dashes_iff.mpr ⟨rfl, rfl, rfl⟩)

theorem isBlank_congr : Text.isBlank first = Text.isBlank other :=
  alike.congr Text.ignoresCase_isBlank
    (Text.forall_mem_dashes_iff.mpr (by decide +kernel))

theorem isDigit_congr : first.isDigit = other.isDigit :=
  alike.congr Text.ignoresCase_isDigit (Text.forall_mem_dashes_iff.mpr ⟨rfl, rfl, rfl⟩)

theorem isAlphabetic_congr : Text.isAlphabetic first = Text.isAlphabetic other :=
  alike.congr Text.ignoresCase_isAlphabetic
    (Text.forall_mem_dashes_iff.mpr (by decide +kernel))

theorem toLower_beq_congr
    {letter : Char}
    (noDash : letter ∉ Text.dashes) :
    (first.toLower == letter) = (other.toLower == letter) := by
  have unchanged : ∀ dash ∈ Text.dashes, dash.toLower = dash :=
    Text.forall_mem_dashes_iff.mpr ⟨rfl, rfl, rfl⟩
  refine alike.congr (Text.ignoresCase_toLower_beq letter) fun dash isDash => ?_
  rw [unchanged dash isDash, unchanged '-' List.mem_cons_self, beq_dash noDash dash isDash]

/-- There is only one spelling of a digit. -/
theorem eq_of_isDigit (digit : first.isDigit) : first = other := by
  rcases alike with lowered | ⟨isDash, _⟩
  · have otherDigit : other.isDigit := by
      rw [← Text.ignoresCase_isDigit other, ← lowered, Text.ignoresCase_isDigit first]
      exact digit
    rw [← Text.toLower_of_isDigit digit, lowered, Text.toLower_of_isDigit otherDigit]
  · have noDigit : ∀ dash ∈ Text.dashes, dash.isDigit = false :=
      Text.forall_mem_dashes_iff.mpr ⟨rfl, rfl, rfl⟩
    rw [noDigit first isDash] at digit
    cases digit

end Characters

section Texts

variable {text other : List Char} (alike : List.Forall₂ Interchangeable text other)

include alike

/-- A keyword without dashes is recognized in every spelling. -/
theorem startsWith_congr
    {keyword : List Char}
    (noDash : keyword.all fun letter => !Text.dashes.contains letter) :
    startsWith keyword text = startsWith keyword other := by
  induction keyword generalizing text other with
  | nil =>
      rw [startsWith_nil, startsWith_nil]
  | cons letter letters inductionHypothesis =>
      rw [List.all_cons, Bool.and_eq_true, Bool.not_eq_true', List.contains_eq_mem,
        decide_eq_false_iff_not] at noDash
      cases alike with
      | nil =>
          rfl
      | cons head tail =>
          rw [startsWith_cons, startsWith_cons, toLower_beq_congr head noDash.1,
            inductionHypothesis tail noDash.2]

theorem startsDirection_congr : startsDirection text = startsDirection other := by
  rw [startsDirection, startsDirection, startsWith_congr alike (by decide),
    startsWith_congr alike (by decide)]

theorem startsVariable_congr : startsVariable text = startsVariable other := by
  cases alike with
  | nil =>
      rfl
  | cons head tail =>
      cases tail with
      | nil =>
          rfl
      | cons second _ =>
          simp only [startsVariable]
          rw [isIndexed_eq, isIndexed_eq, toLower_beq_congr head (by decide),
            isDigit_congr second]

theorem digitCount_congr : digitCount text = digitCount other := by
  induction alike with
  | nil =>
      rfl
  | @cons first second rest others head _ inductionHypothesis =>
      simp only [digitCount] at inductionHypothesis
      rw [digitCount, digitCount, List.takeWhile_cons, List.takeWhile_cons,
        isDigit_congr head]
      cases second.isDigit with
      | false =>
          rfl
      | true =>
          exact congrArg Nat.succ inductionHypothesis

theorem wordCount_congr : wordCount text = wordCount other := by
  induction alike with
  | nil =>
      rfl
  | cons head tail inductionHypothesis =>
      rw [wordCount, wordCount, isAlphabetic_congr head,
        beq_congr head '_' (by decide +kernel) (by decide),
        startsVariable_congr (.cons head tail), startsDirection_congr (.cons head tail),
        inductionHypothesis]

/-- A respelled text starts with the same keyword. -/
theorem keyword?_congr : keyword? text = keyword? other := by
  have noDash :
      keywords.all fun entry => entry.1.all fun letter => !Text.dashes.contains letter := by
    decide
  rw [keyword?, keyword?, List.find?_congr fun entry member =>
    startsWith_congr alike (List.all_eq_true.mp noDash entry member)]

/-- A symbol that has one spelling stands in front of both texts or of neither. -/
theorem head?_beq_congr
    {symbol : Char}
    (noLetter : Text.isAlphabetic symbol = false)
    (noDash : symbol ∉ Text.dashes) :
    (text.head? == some symbol) = (other.head? == some symbol) := by
  cases alike with
  | nil =>
      rfl
  | cons head _ =>
      rw [List.head?_cons, List.head?_cons, Option.some_beq_some, Option.some_beq_some,
        beq_congr head symbol noLetter noDash]

end Texts

/-- A lexeme looks at nothing that is different in another spelling. -/
theorem ofChars_congr
    {first other : Char}
    {rest others : List Char}
    (head : Interchangeable first other)
    (tail : List.Forall₂ Interchangeable rest others) :
    ofChars first rest = ofChars other others := by
  rw [ofChars, ofChars, beq_congr head '+' (by decide +kernel) (by decide),
    isMinus_congr head, beq_congr head '=' (by decide +kernel) (by decide),
    beq_congr head '<' (by decide +kernel) (by decide),
    beq_congr head '>' (by decide +kernel) (by decide),
    head?_beq_congr tail (by decide +kernel) (by decide), isDigit_congr head,
    digitCount_congr tail, startsVariable_congr (.cons head tail),
    isAlphabetic_congr head, keyword?_congr (.cons head tail), wordCount_congr tail]

end Lexeme

open Text (Interchangeable)

/-- Two spellings of a variable, whose letter may be a capital. -/
def SameVariable (text other : String) : Prop :=
  ∃ letter otherLetter digits, letter ∈ ['x', 'X'] ∧ otherLetter ∈ ['x', 'X'] ∧
    text.toList = letter :: digits ∧ other.toList = otherLetter :: digits

/-- Tokens of one kind that stand for the same number if they stand for any. -/
structure Token.Respelled (token other : Token) : Prop where
  kind : token.kind = other.kind
  integer : token.kind = .integer → token.text = other.text
  indexed : token.kind = .variable → SameVariable token.text other.text

/-- There is only one spelling of a text of digits. -/
theorem eq_of_digits
    {text other : List Char}
    (alike : List.Forall₂ Interchangeable text other)
    (digits : ∀ character ∈ text, character.isDigit) :
    text = other := by
  induction alike with
  | nil =>
      rfl
  | cons head _ inductionHypothesis =>
      rw [List.forall_mem_cons] at digits
      rw [Lexeme.eq_of_isDigit head digits.1, inductionHypothesis digits.2]

/-- The letter of a variable is no dash, so only its case may differ. -/
theorem mem_of_isIndexed
    {first other : Char}
    (alike : Interchangeable first other)
    (letter : first = 'x' ∨ first = 'X') :
    first ∈ ['x', 'X'] ∧ other ∈ ['x', 'X'] := by
  have indexed : (first == 'x' || first == 'X') = (other == 'x' || other == 'X') := by
    rw [Lexeme.isIndexed_eq, Lexeme.isIndexed_eq,
      Lexeme.toLower_beq_congr alike (by decide)]
  refine ⟨by simpa using letter, ?_⟩
  rw [show (first == 'x' || first == 'X') = true by simpa using letter] at indexed
  simpa using indexed.symm

/-- The tokens that two spellings of a lexeme become, wherever they stand. -/
theorem Token.respelled_lexeme
    {first other : Char}
    {rest others : List Char}
    (head : Interchangeable first other)
    (tail : List.Forall₂ Interchangeable rest others)
    (start stop otherStart otherStop : Nat) :
    let lexeme := Lexeme.ofChars first rest
    Token.Respelled
      ⟨lexeme.kind, start, stop, String.ofList (first :: rest.take lexeme.extra)⟩
      ⟨lexeme.kind, otherStart, otherStop,
        String.ofList (other :: others.take lexeme.extra)⟩ where
  kind := rfl
  integer := by
    intro integer
    have digit := Lexeme.integer_ofChars_iff.mp integer
    rw [Lexeme.ofChars_digit digit]
    refine congrArg String.ofList (eq_of_digits (.cons head (List.forall₂_take _ tail)) ?_)
    rw [List.forall_mem_cons]
    exact ⟨digit, fun _ => isDigit_of_mem_digitCount⟩
  indexed := by
    intro isVariable
    have starts := Lexeme.variable_ofChars_iff.mp isVariable
    rw [Lexeme.ofChars_variable starts]
    have letters := mem_of_isIndexed head (Lexeme.startsVariable_iff.mp starts).1
    have digits := eq_of_digits (List.forall₂_take (Lexeme.digitCount rest) tail)
      fun _ => isDigit_of_mem_digitCount
    refine ⟨first, other, _, letters.1, letters.2, String.toList_ofList, ?_⟩
    rw [String.toList_ofList, digits]

/-- Two spellings of a text have the same tokens, wherever the texts start. -/
theorem respelled_tokensFrom
    {text other : List Char}
    (alike : List.Forall₂ Interchangeable text other)
    (position otherPosition skip : Nat) :
    List.Forall₂ Token.Respelled
      (tokensFrom position skip text) (tokensFrom otherPosition skip other) := by
  induction alike generalizing position otherPosition skip with
  | nil =>
      exact .cons ⟨rfl, by simp, by simp⟩ .nil
  | @cons first second rest others head tail inductionHypothesis =>
      cases skip with
      | succ remaining =>
          exact inductionHypothesis _ _ remaining
      | zero =>
          rw [tokensFrom, tokensFrom, ← Lexeme.isBlank_congr head,
            ← Lexeme.ofChars_congr head tail]
          cases Text.isBlank first with
          | true =>
              exact inductionHypothesis _ _ 0
          | false =>
              exact .cons (Token.respelled_lexeme head tail _ _ _ _)
                (inductionHypothesis _ _ _)

/-- A respelled line has the same tokens, respelled. -/
theorem respelled_tokenize
    {line other : String}
    (alike : Text.Respelled line other) :
    List.Forall₂ Token.Respelled (tokenize line) (tokenize other) :=
  respelled_tokensFrom alike 0 0 0

/-! What is found in a line by the kinds of its tokens alone. -/

section Kinds

variable {tokens others : List Token} (alike : List.Forall₂ Token.Respelled tokens others)

include alike

theorem kinds_congr : tokens.map Token.kind = others.map Token.kind :=
  map_eq_of_forall₂ alike fun _ _ same => same.kind

theorem countP_kind_congr (holds : TokenKind → Bool) :
    (tokens.countP fun token => holds token.kind) =
      others.countP fun token => holds token.kind := by
  have counted := congrArg (List.countP holds) (kinds_congr alike)
  rwa [List.countP_map, List.countP_map] at counted

theorem hasKind_congr (kind : TokenKind) : hasKind kind tokens = hasKind kind others := by
  have found := congrArg (List.any · (· == kind)) (kinds_congr alike)
  simp only [List.any_map] at found
  exact found

theorem isTerminatorLine_congr : isTerminatorLine tokens = isTerminatorLine others := by
  rw [isTerminatorLine, isTerminatorLine, kinds_congr alike]

/-- The direction does not depend on the spelling. -/
theorem direction?_congr : direction? tokens = direction? others := by
  rw [direction?, direction?, hasKind_congr alike, hasKind_congr alike]

theorem relation?_congr : relation? tokens = relation? others := by
  have found := congrArg (List.findSome? TokenKind.relation?) (kinds_congr alike)
  rwa [List.findSome?_map, List.findSome?_map] at found

theorem signsBalance_congr : signsBalance tokens = signsBalance others := by
  have signs : signCount tokens = signCount others :=
    countP_kind_congr alike TokenKind.isSign
  have names : variableCount tokens = variableCount others :=
    countP_kind_congr alike (· == .variable)
  rw [signsBalance, signsBalance, signs, names]

/-- The right-hand side may stand elsewhere, but says the same. -/
theorem rightHandSide?_congr :
    (rightHandSide? tokens).map Token.text = (rightHandSide? others).map Token.text := by
  induction alike with
  | nil =>
      rfl
  | cons head tail inductionHypothesis =>
      cases tail with
      | nil =>
          rfl
      | cons second _ =>
          rw [rightHandSide?, rightHandSide?, ← head.kind, ← second.kind]
          split
          · next assigned =>
              rw [Bool.and_eq_true, beq_iff_eq] at assigned
              exact congrArg some (second.integer assigned.2)
          · exact inductionHypothesis

end Kinds

end LinearProgram
