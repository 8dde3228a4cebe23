import LinearProgram.Proofs.Formulation.Building
import LinearProgram.Proofs.Line.Words
import Mathlib.Data.Nat.Digits.Defs

namespace LinearProgram

/-!
# Numbers are never altered

A numeral in a line is read as the number that its digits write in decimal, or
refused for its text if this number does not fit 64 bits, and nothing that is done
with the numbers read overflows. So the entries of the matrices of a problem are
numbers that its lines write, with a sign of their own where they are coefficients
(`numbers_exact`).
-/

namespace Numeral

/-- The number that digits write: each counts ten times as much as the one behind it. -/
def decimalValue (digits : List Char) : Nat :=
  Nat.ofDigits 10 (digits.reverse.map fun digit => digit.toNat - '0'.toNat)

/-- The number of digits, counted from the first on, is their decimal value. -/
theorem number_eq_decimalValue (digits : List Char) : number digits = decimalValue digits := by
  induction digits using List.reverseRecOn with
  | nil =>
      rfl
  | append_singleton digits digit inductionHypothesis =>
      rw [number, Nat.ofDigitChars_append, ← number, inductionHypothesis, decimalValue,
        decimalValue, List.reverse_append, List.reverse_singleton, List.singleton_append,
        List.map_cons, Nat.ofDigits_cons, Nat.ofDigitChars_cons, Nat.ofDigitChars_nil,
        Nat.add_comm]

end Numeral

/-- The numbers of a line are read exactly, and its coefficients fill words exactly. -/
structure ReadsExactly (line : String) : Prop where
  /-- An integer is the number that its digits write, unless that is too large. -/
  integers : ∀ token ∈ tokenize line, token.kind = .integer →
    Numeral.IsDigits token.text.toList ∧
      Term.integerValue token.text =
        if Numeral.decimalValue token.text.toList ≤ 2 ^ 63 - 1 then
          .ok (Numeral.decimalValue token.text.toList)
        else
          .error (.invalidNumber token.text)
  /-- So is an index, which stands behind the letter of a variable. -/
  indices : ∀ token ∈ tokenize line, token.kind = .variable →
    ∃ letter digits, token.text.toList = letter :: digits ∧ Numeral.IsDigits digits ∧
      variableIndex token.text =
        if Numeral.decimalValue digits ≤ 2 ^ 64 - 1 then
          .ok (Numeral.decimalValue digits)
        else
          .error (.invalidNumber token.text)
  /-- Words are filled like numbers, so the least word is never negated. -/
  words : ∀ row, (fillWords (tokenize line) row).Represents
    (fillCoefficients (tokenize line) (numbersOf row))

section Tokens

variable {line : String} {token : Token}

/-- An integer of a line is its number if this is a value, and refused otherwise. -/
theorem integerValue_eq_ite
    (member : token ∈ tokenize line)
    (integer : token.kind = .integer) :
    Term.integerValue token.text =
      if token.number ≤ 2 ^ 63 - 1 then
        .ok (token.number : Int)
      else
        .error (.invalidNumber token.text) := by
  have read := @integerValue_eq_ok_iff line token member integer
  split
  · next fits =>
      exact read.mpr ⟨rfl, by unfold Numeral.maxValue; omega⟩
  · next tooLarge =>
      cases outcome : Term.integerValue token.text with
      | ok value =>
          obtain ⟨rfl, fits⟩ := read.mp outcome
          unfold Numeral.maxValue at fits
          omega
      | error failure =>
          rw [Term.integerValue] at outcome
          split at outcome
          · cases outcome
          · rw [← outcome]

/-- A variable of a line has its number as index if this is one, and is refused otherwise. -/
theorem variableIndex_eq_ite
    (member : token ∈ tokenize line)
    (isVariable : token.kind = .variable) :
    variableIndex token.text =
      if token.number ≤ 2 ^ 64 - 1 then
        .ok token.number
      else
        .error (.invalidNumber token.text) := by
  split
  · next fits =>
      exact (variableIndex_eq_ok_iff member isVariable).mpr ⟨rfl, fits⟩
  · next tooLarge =>
      refine Term.variableIndex_eq_error fun index found => ?_
      obtain ⟨rfl, fits⟩ := (variableIndex_eq_ok_iff member isVariable).mp found
      exact tooLarge fits

end Tokens

theorem readsExactly (line : String) : ReadsExactly line where
  integers token member integer := by
    have isDigits := isDigits_of_integer member integer
    have number : token.number = Numeral.decimalValue token.text.toList := by
      rw [Token.number, filter_isDigit_eq_self isDigits, Numeral.number_eq_decimalValue]
    rw [← number]
    exact ⟨isDigits, integerValue_eq_ite member integer⟩
  indices token member isVariable := by
    obtain ⟨letter, digits, text, _, noDigit, isDigits⟩ :=
      isDigits_of_variable member isVariable
    have number : token.number = Numeral.decimalValue digits := by
      rw [Token.number, text, List.filter_cons_of_neg (by simp [noDigit]),
        filter_isDigit_eq_self isDigits, Numeral.number_eq_decimalValue]
    refine ⟨letter, digits, text, isDigits, ?_⟩
    rw [← number]
    exact variableIndex_eq_ite member isVariable
  words := fillWords_represents line

namespace Formulation

/-- The entries of matrices whose coefficients have signs of their own. -/
structure WithinMagnitudes (matrices : Matrices) : Prop where
  coefficients : ∀ row ∈ matrices.a, ∀ entry ∈ row,
    -(2 ^ 63 - 1) ≤ entry ∧ entry ≤ 2 ^ 63 - 1
  objective : ∀ entry ∈ matrices.c, -(2 ^ 63 - 1) ≤ entry ∧ entry ≤ 2 ^ 63 - 1
  bounds : ∀ entry ∈ matrices.b, 0 ≤ entry ∧ entry ≤ 2 ^ 63 - 1

/-- Matrices are made of magnitudes from the lines, with signs where they may have them. -/
theorem MadeOf.withinMagnitudes
    {matrices : Matrices}
    {objective : String}
    {constraints : List String}
    {width : Nat}
    (made : MadeOf matrices objective constraints width) :
    WithinMagnitudes matrices where
  coefficients row member entry inRow := by
    obtain ⟨line, _, isRow⟩ := exists_mem_of_forall₂ made.rows member
    exact abs_le.mp (abs_le_of_mem_coefficients isRow entry inRow)
  objective entry member :=
    abs_le.mp (abs_le_of_mem_coefficients made.objectiveRow entry member)
  bounds := made.bound_inRange

/--
The numbers of every line are read exactly and nothing done with them overflows, and
matrices made of all lines hold no number beyond those that can be written in a line, up
to its sign, whatever the width.
-/
theorem numbers_exact :
    (∀ line, ReadsExactly line) ∧
    ∀ lines width matrices, assemble lines ⟨lines.length - 1, width⟩ = .ok matrices →
      WithinMagnitudes matrices := by
  refine ⟨readsExactly, fun lines width matrices success => ?_⟩
  cases lines with
  | nil =>
      cases success
  | cons objective constraints =>
      exact ((assemble_eq_ok_iff rfl).mp success).withinMagnitudes

/--
The greatest numbers of a line with zeros in front of them, the least numbers that are too
large, and a problem whose entries reach the limits.
-/
theorem numbers_exact_limits :
    let line := "-0009223372036854775807x018446744073709551615"
    let beyond := "9223372036854775808x18446744073709551616"
    let least := "-9223372036854775807x1"
    let lines := ["max9223372036854775807x2-9223372036854775807x1",
      "st-9223372036854775807x2<=9223372036854775807"]
    let matrices : Matrices :=
      ⟨[[0, -9223372036854775807]], [9223372036854775807],
        [-9223372036854775807, 9223372036854775807], [.le], .max, none⟩
    (⟨.integer, 1, 23, "0009223372036854775807"⟩ ∈ tokenize line ∧
      Term.integerValue "0009223372036854775807" = .ok 9223372036854775807) ∧
    (⟨.variable, 23, 45, "x018446744073709551615"⟩ ∈ tokenize line ∧
      variableIndex "x018446744073709551615" = .ok 18446744073709551615) ∧
    (⟨.integer, 0, 19, "9223372036854775808"⟩ ∈ tokenize beyond ∧
      Term.integerValue "9223372036854775808" =
        .error (.invalidNumber "9223372036854775808")) ∧
    (⟨.variable, 19, 40, "x18446744073709551616"⟩ ∈ tokenize beyond ∧
      variableIndex "x18446744073709551616" =
        .error (.invalidNumber "x18446744073709551616")) ∧
    (fillWords (tokenize least) [0]).Represents ⟨[-9223372036854775807], none⟩ ∧
    assemble lines ⟨lines.length - 1, 2⟩ = .ok matrices ∧ WithinMagnitudes matrices := by
  intro line beyond least lines matrices
  have integer : ⟨.integer, 1, 23, "0009223372036854775807"⟩ ∈ tokenize line := by
    decide
  have indexed : ⟨.variable, 23, 45, "x018446744073709551615"⟩ ∈ tokenize line := by
    decide
  have largeInteger : ⟨.integer, 0, 19, "9223372036854775808"⟩ ∈ tokenize beyond := by
    decide
  have largeIndex : ⟨.variable, 19, 40, "x18446744073709551616"⟩ ∈ tokenize beyond := by
    decide
  have assembled : assemble lines ⟨lines.length - 1, 2⟩ = .ok matrices := by
    unfold lines matrices
    rfl
  have filled : fillCoefficients (tokenize least) (numbersOf [0]) =
      ⟨[-9223372036854775807], none⟩ := by
    decide
  have lineExact := numbers_exact.1 line
  have beyondExact := numbers_exact.1 beyond
  obtain ⟨letter, digits, text, _, index⟩ := lineExact.indices _ indexed rfl
  obtain ⟨largeLetter, largeDigits, largeText, _, refused⟩ :=
    beyondExact.indices _ largeIndex rfl
  have words := (numbers_exact.1 least).words [0]
  cases text
  cases largeText
  rw [filled] at words
  exact ⟨⟨integer, (lineExact.integers _ integer rfl).2⟩, ⟨indexed, index⟩,
    ⟨largeInteger, (beyondExact.integers _ largeInteger rfl).2⟩, ⟨largeIndex, refused⟩,
    words, assembled, numbers_exact.2 _ _ _ assembled⟩

end Formulation

end LinearProgram
