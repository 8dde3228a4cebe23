import LinearProgram.Text.Numeral

namespace LinearProgram.Numeral

/-!
# Numerals without a sign

A text of digits denotes a number whatever its size. It is read as an index or
as a value exactly if that number fits.
-/

/-- A text that consists of digits, of which there is at least one. -/
structure IsDigits (text : List Char) : Prop where
  filled : text ≠ []
  digits : ∀ character ∈ text, character.isDigit

/-- The number that digits denote. -/
def number (digits : List Char) : Nat :=
  Nat.ofDigitChars 10 digits 0

namespace IsDigits

variable {text : List Char}

theorem head_ne
    (isDigits : IsDigits text)
    {symbol : Char}
    (noDigit : symbol.isDigit = false)
    (rest : List Char) :
    text ≠ symbol :: rest := by
  rintro rfl
  rw [isDigits.digits symbol List.mem_cons_self] at noDigit
  cases noDigit

theorem digitsValue?_eq (isDigits : IsDigits text) :
    digitsValue? text = some (number text) := by
  have nonempty : text.isEmpty = false := by
    simpa using isDigits.filled
  have allDigits : text.all Char.isDigit := by
    rw [List.all_eq_true]
    exact isDigits.digits
  simp only [digitsValue?, nonempty, allDigits]
  rfl

theorem dropPlus_eq (isDigits : IsDigits text) : dropPlus text = text := by
  unfold dropPlus
  split
  · exact absurd rfl (isDigits.head_ne rfl _)
  · rfl

theorem signed?_eq (isDigits : IsDigits text) :
    signed? text = some (number text : Int) := by
  unfold signed?
  split
  · exact absurd rfl (isDigits.head_ne rfl _)
  · rw [isDigits.dropPlus_eq, isDigits.digitsValue?_eq]
    rfl

/-- Digits are an index unless their number is too large for one. -/
theorem index?_eq_some_iff (isDigits : IsDigits text) {index : Nat} :
    index? text = some index ↔ number text = index ∧ index ≤ maxIndex := by
  rw [index?, isDigits.dropPlus_eq, isDigits.digitsValue?_eq, Option.filter_eq_some_iff,
    Option.some_inj, decide_eq_true_eq]

/-- Digits are a value unless their number is too large for one. -/
theorem value?_eq_some_iff (isDigits : IsDigits text) {value : Int} :
    value? text = some value ↔ (number text : Int) = value ∧ value ≤ maxValue := by
  rw [value?, isDigits.signed?_eq, Option.filter_eq_some_iff, Option.some_inj,
    Bool.and_eq_true, decide_eq_true_eq, decide_eq_true_eq]
  apply and_congr_right
  rintro rfl
  have notBelow : minValue ≤ (number text : Int) := by
    unfold minValue
    omega
  exact and_iff_right notBelow

end IsDigits

end LinearProgram.Numeral
