import LinearProgram.Line.Terms
import LinearProgram.Proofs.Line.Scan
import LinearProgram.Proofs.Text.Digits
import Mathlib.Data.List.TakeWhile

namespace LinearProgram

/-!
# The numbers in the tokens of a line

The text of an integer consists of digits, and that of a variable of a letter
and digits. So each of them denotes a number, and the only thing that can be
wrong with the number is its size.
-/

/-- The number that the digits in a token's text denote. -/
def Token.number (token : Token) : Nat :=
  Numeral.number (token.text.toList.filter Char.isDigit)

/-- A token gives an index, which may not be too large to be one. -/
def Token.HasIndex (token : Token) (index : Nat) : Prop :=
  token.number = index ∧ index ≤ Numeral.maxIndex

/-- Every token but the last is a lexeme of the line. -/
theorem exists_lexeme_of_mem_tokensFrom
    (before text : List Char) :
    ∀ position, ∀ token ∈ tokensFrom position 0 text, token.kind ≠ .finish →
      ∃ first rest,
        token.kind = (Lexeme.ofChars first rest).kind ∧
          token.text.toList =
            first :: rest.take (Lexeme.ofChars first rest).extra := by
  induction before, text using scan_induction with
  | finish before =>
      intro position token member notFinish
      rw [tokensFrom, List.mem_singleton] at member
      exact absurd (by rw [member]) notFinish
  | blank before first rest blank inductionHypothesis =>
      intro position
      rw [tokensFrom_blank blank]
      exact inductionHypothesis _
  | lexeme before first rest filled inductionHypothesis =>
      intro position token member notFinish
      rw [tokensFrom_lexeme filled] at member
      rcases List.mem_cons.mp member with rfl | behind
      · exact ⟨first, rest, rfl, String.toList_ofList⟩
      · exact inductionHypothesis _ token behind notFinish

section Texts

variable {line : String} {token : Token}

theorem isDigit_of_mem_digitCount
    {rest : List Char}
    {character : Char}
    (member : character ∈ rest.take (Lexeme.digitCount rest)) :
    character.isDigit := by
  rw [Lexeme.digitCount,
    ← List.prefix_iff_eq_take.mp (List.takeWhile_prefix Char.isDigit)] at member
  exact List.mem_takeWhile_imp member

/-- The text of an integer consists of digits. -/
theorem isDigits_of_integer
    (member : token ∈ tokenize line)
    (integer : token.kind = .integer) :
    Numeral.IsDigits token.text.toList := by
  obtain ⟨first, rest, kind, text⟩ :=
    exists_lexeme_of_mem_tokensFrom [] line.toList 0 token member (by simp [integer])
  rw [integer] at kind
  have digit := Lexeme.integer_ofChars_iff.mp kind.symm
  rw [text, Lexeme.ofChars_digit digit]
  refine ⟨List.cons_ne_nil _ _, ?_⟩
  rw [List.forall_mem_cons]
  exact ⟨digit, fun _ => isDigit_of_mem_digitCount⟩

/-- The text of a variable is a letter of one byte with digits behind it. -/
theorem isDigits_of_variable
    (member : token ∈ tokenize line)
    (isVariable : token.kind = .variable) :
    ∃ letter digits, token.text.toList = letter :: digits ∧ letter.utf8Size = 1 ∧
      letter.isDigit = false ∧ Numeral.IsDigits digits := by
  obtain ⟨first, rest, kind, text⟩ :=
    exists_lexeme_of_mem_tokensFrom [] line.toList 0 token member (by simp [isVariable])
  rw [isVariable] at kind
  have starts := Lexeme.variable_ofChars_iff.mp kind.symm
  rw [Lexeme.ofChars_variable starts] at text
  obtain ⟨letter, digit, behind, rfl, isDigit⟩ := Lexeme.startsVariable_iff.mp starts
  refine ⟨first, _, text, ?_, ?_, ?_, fun _ => isDigit_of_mem_digitCount⟩
  · rcases letter with rfl | rfl <;> rfl
  · rcases letter with rfl | rfl <;> rfl
  · simp [Lexeme.digitCount, isDigit]

theorem filter_isDigit_eq_self
    {digits : List Char}
    (isDigits : Numeral.IsDigits digits) :
    digits.filter Char.isDigit = digits :=
  List.filter_eq_self.mpr isDigits.digits

/-- An integer is read unless its number is too large. -/
theorem integerValue_eq_ok_iff
    (member : token ∈ tokenize line)
    (integer : token.kind = .integer)
    {value : Int} :
    Term.integerValue token.text = .ok value ↔
      (token.number : Int) = value ∧ value ≤ Numeral.maxValue := by
  have isDigits := isDigits_of_integer member integer
  rw [Token.number, filter_isDigit_eq_self isDigits, ← isDigits.value?_eq_some_iff,
    Term.integerValue]
  cases Numeral.value? token.text.toList <;> simp

/-- The index of a variable is read unless it is too large. -/
theorem variableIndex_eq_ok_iff
    (member : token ∈ tokenize line)
    (isVariable : token.kind = .variable)
    {index : Nat} :
    variableIndex token.text = .ok index ↔ token.HasIndex index := by
  obtain ⟨letter, digits, text, oneByte, noDigit, isDigits⟩ :=
    isDigits_of_variable member isVariable
  have number : token.number = Numeral.number digits := by
    rw [Token.number, text, List.filter_cons_of_neg (by simp [noDigit]),
      filter_isDigit_eq_self isDigits]
  rw [Token.HasIndex, number, ← isDigits.index?_eq_some_iff, variableIndex, text]
  simp only [oneByte, if_true]
  cases Numeral.index? digits <;> simp

end Texts

end LinearProgram
