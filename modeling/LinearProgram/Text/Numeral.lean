namespace LinearProgram.Numeral

/-!
# Decimal numerals

Numbers are written in decimal without leading zeros. A numeral that is read
may carry a sign and any number of leading zeros, and is refused when its value
does not fit 64 bits: indices are unsigned, values are signed. What is written
reads back (`index?_ofNat`, `value?_ofInt`).
-/

/-- The greatest index that can be read. -/
def maxIndex : Nat := 18446744073709551615

/-- The least value that can be read. -/
def minValue : Int := -9223372036854775808

/-- The greatest value that can be read. -/
def maxValue : Int := 9223372036854775807

/-- The decimal digits of a natural number. -/
def ofNat (number : Nat) : List Char :=
  Nat.toDigits 10 number

/-- The decimal digits of an integer, after a hyphen if it is negative. -/
def ofInt : Int → List Char
  | .ofNat number => ofNat number
  | .negSucc predecessor => '-' :: ofNat (predecessor + 1)

/-- The value of a nonempty run of decimal digits. -/
def digitsValue? (digits : List Char) : Option Nat :=
  if !digits.isEmpty && digits.all Char.isDigit then
    some (Nat.ofDigitChars 10 digits 0)
  else
    none

/-- The digits of a numeral that may start with a plus sign. -/
def dropPlus : List Char → List Char
  | '+' :: digits => digits
  | digits => digits

/-- Read an index: digits, possibly after a plus sign. -/
def index? (text : List Char) : Option Nat :=
  (digitsValue? (dropPlus text)).filter (· ≤ maxIndex)

/-- The number that a signed numeral denotes, whatever its size. -/
def signed? : List Char → Option Int
  | '-' :: digits => (digitsValue? digits).map fun number => -(number : Int)
  | text => (digitsValue? (dropPlus text)).map Int.ofNat

/-- Read a value: digits, possibly after a plus sign or a hyphen. -/
def value? (text : List Char) : Option Int :=
  (signed? text).filter fun number => minValue ≤ number && number ≤ maxValue

/-- The digits of a number are digits. -/
theorem isDigit_of_mem_ofNat
    (number : Nat)
    {character : Char}
    (member : character ∈ ofNat number) :
    character.isDigit :=
  Nat.isDigit_of_mem_toDigits (by decide) (by decide) member

/-- The digits of a number denote it. -/
theorem digitsValue?_ofNat (number : Nat) : digitsValue? (ofNat number) = some number := by
  have allDigits : (ofNat number).all Char.isDigit := by
    rw [List.all_eq_true]
    exact fun character member => isDigit_of_mem_ofNat number member
  have nonempty : (ofNat number).isEmpty = false := by
    simp [ofNat, Nat.toDigits_ne_nil]
  simp only [digitsValue?, allDigits, nonempty]
  simp [ofNat]

/-- The digits of a number carry no plus sign. -/
theorem dropPlus_ofNat (number : Nat) : dropPlus (ofNat number) = ofNat number := by
  unfold dropPlus
  split
  · next digits written =>
      have plusIsDigit : ('+' : Char).isDigit :=
        isDigit_of_mem_ofNat number (by simp [written])
      exact absurd plusIsDigit (by decide)
  · rfl

/-- An index that is written reads back. -/
theorem index?_ofNat {index : Nat} (fits : index ≤ maxIndex) :
    index? (ofNat index) = some index := by
  simp [index?, dropPlus_ofNat, digitsValue?_ofNat, Option.filter, fits]

/-- An integer that is written denotes itself. -/
theorem signed?_ofInt (value : Int) : signed? (ofInt value) = some value := by
  cases value with
  | negSucc predecessor =>
      simp [ofInt, signed?, digitsValue?_ofNat, Int.negSucc_eq]
  | ofNat number =>
      unfold signed? ofInt
      split
      · next digits written =>
          have hyphenIsDigit : ('-' : Char).isDigit :=
            isDigit_of_mem_ofNat number (by simp [written])
          exact absurd hyphenIsDigit (by decide)
      · simp [dropPlus_ofNat, digitsValue?_ofNat]

/-- A value that is written reads back. -/
theorem value?_ofInt
    {value : Int}
    (notBelow : minValue ≤ value)
    (notAbove : value ≤ maxValue) :
    value? (ofInt value) = some value := by
  simp [value?, signed?_ofInt, Option.filter, notBelow, notAbove]

end LinearProgram.Numeral
