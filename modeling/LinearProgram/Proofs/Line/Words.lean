import LinearProgram.Proofs.Line.Context

namespace LinearProgram

/-!
# Rows of machine words

The coefficients of a problem are numbers of any size, while a machine keeps them in
words of 64 bits. A row of words is filled like a row of numbers, except that a word
may have no negation. The magnitudes in a line have no sign, so this never happens,
and the words that a line fills in are its coefficients (`fillWords_represents`).
-/

/-- Why a row of words is not filled to its end. -/
inductive Halt where
  | failure (failure : Failure)
  /-- The least word, which has no negation among the words, was to be negated. -/
  | overflow
  deriving Repr, DecidableEq

namespace Halt

/-- What is done with words fails as what is done with numbers does. -/
def lift (outcome : Except Failure α) : Except Halt α :=
  outcome.mapError .failure

/-- The negation of a word. -/
def negate (word : Int64) : Except Halt Int64 :=
  if word = Int64.minValue then .error .overflow else .ok (-word)

end Halt

namespace Term

/-- The magnitude of a term, as a word. -/
def magnitudeWord (term : Term) : Except Halt Int64 :=
  match term.magnitude with
  | some text => Halt.lift ((integerValue text).map Int64.ofInt)
  | none => .ok 1

/-- A word that is negated or left as it is. -/
def signedWord (negated : Bool) (magnitude : Int64) : Except Halt Int64 :=
  if negated then Halt.negate magnitude else .ok magnitude

/-- The row of words with the coefficient of a term entered at the term's variable. -/
def enterWord (term : Term) (row : List Int64) : Except Halt (List Int64) := do
  let magnitude ← term.magnitudeWord
  let index ← Halt.lift (variableIndex term.variableText)
  if 1 ≤ index ∧ index ≤ row.length then
    let word ← signedWord term.negated magnitude
    return row.set (index - 1) word
  else
    throw (.failure (.variableOutOfRange index row.length))

end Term

/-- A row of words, and what has kept a term from being entered in it, if anything. -/
structure WordRow where
  row : List Int64
  halt : Option Halt
  deriving Repr, DecidableEq

/-- Enter terms into a row of words, in order, up to the first that halts. -/
def WordRow.enterAll (row : List Int64) : List Term → WordRow
  | [] => ⟨row, none⟩
  | term :: rest =>
      match term.enterWord row with
      | .ok entered => enterAll entered rest
      | .error halt => ⟨row, some halt⟩

/-- Enter the terms among the tokens of a line into a row of words. -/
def fillWords (tokens : List Token) (row : List Int64) : WordRow :=
  .enterAll row (Term.ofTokens tokens)

/-- The numbers that are kept in a row of words. -/
def numbersOf (row : List Int64) : List Int :=
  row.map Int64.toInt

/-- The row of numbers that a row of words stands for. -/
def WordRow.Represents (words : WordRow) (filled : FilledRow) : Prop :=
  numbersOf words.row = filled.row ∧ words.halt = filled.failure.map .failure

/-- A word keeps a number that fits. -/
theorem toInt_ofInt_of_inRange
    {value : Int}
    (notNegative : 0 ≤ value)
    (fits : value ≤ Numeral.maxValue) :
    (Int64.ofInt value).toInt = value := by
  unfold Numeral.maxValue at fits
  exact Int64.toInt_ofInt_of_le (by omega) (by omega)

/-- A word that is not negative has a negation. -/
theorem Halt.negate_eq
    {word : Int64}
    (notNegative : 0 ≤ word.toInt) :
    ∃ negated, negate word = .ok negated ∧ negated.toInt = -word.toInt := by
  have isNotLeast : word ≠ Int64.minValue := by
    rintro rfl
    exact absurd notNegative (by decide)
  refine ⟨-word, if_neg isNotLeast, ?_⟩
  have bound := Int64.toInt_lt word
  rw [Int64.toInt_neg]
  exact Int.bmod_eq_of_le (by omega) (by omega)

namespace Term

variable {term : Term} {row : List Int64}

/-- A term whose magnitude, where it can be read, has no sign. -/
def Unsigned (term : Term) : Prop :=
  ∀ text ∈ term.magnitude, ∀ value, integerValue text = .ok value →
    0 ≤ value ∧ value ≤ Numeral.maxValue

/-- A magnitude without a sign may be given either sign. -/
theorem signedWord_eq
    (negated : Bool)
    {magnitude : Int64}
    (notNegative : 0 ≤ magnitude.toInt) :
    ∃ word, signedWord negated magnitude = .ok word ∧
      word.toInt = if negated then -magnitude.toInt else magnitude.toInt := by
  cases negated with
  | true =>
      exact Halt.negate_eq notNegative
  | false =>
      exact ⟨magnitude, rfl, rfl⟩

/-- The word that a term stands for keeps the number that it stands for. -/
theorem Denotes.word_eq
    {value : Int}
    (denotes : term.Denotes value)
    (isUnsigned : term.Unsigned) :
    ∃ magnitude word, term.magnitudeWord = .ok magnitude ∧
      signedWord term.negated magnitude = .ok word ∧ word.toInt = value := by
  cases denotes with
  | bare omitted =>
      have notNegative : 0 ≤ (1 : Int64).toInt := by
        decide
      obtain ⟨word, signed, isValue⟩ := signedWord_eq term.negated notNegative
      exact ⟨1, word, by rw [magnitudeWord, omitted], signed, isValue⟩
  | @written text magnitude given reads =>
      have read := integerValue_of_value? reads
      obtain ⟨notNegative, fits⟩ := isUnsigned text given magnitude read
      have kept := toInt_ofInt_of_inRange notNegative fits
      rw [← kept] at notNegative
      obtain ⟨word, signed, isValue⟩ := signedWord_eq term.negated notNegative
      rw [kept] at isValue
      refine ⟨Int64.ofInt magnitude, word, ?_, signed, isValue⟩
      rw [magnitudeWord, given]
      simp only [read]
      rfl

/-- A term that fits into a row of numbers is entered in the row of words. -/
theorem Fits.enterWord_eq
    {index : Nat}
    {value : Int}
    (fits : term.Fits row.length index value)
    (isUnsigned : term.Unsigned) :
    ∃ word, term.enterWord row = .ok (row.set (index - 1) word) ∧ word.toInt = value := by
  obtain ⟨magnitude, word, isMagnitude, signed, isValue⟩ := fits.denotes.word_eq isUnsigned
  refine ⟨word, ?_, isValue⟩
  rw [enterWord, isMagnitude, fits.indexed]
  simp only [Halt.lift, Except.mapError, bind, Except.bind,
    if_pos (And.intro fits.positive fits.within), signed]
  rfl

/-- A term that does not fit fails as it does with numbers. -/
theorem Misfit.enterWord_eq
    {failure : Failure}
    (misfit : term.Misfit row.length failure)
    (isUnsigned : term.Unsigned) :
    term.enterWord row = .error (.failure failure) := by
  cases misfit with
  | magnitude given unreadable =>
      rw [enterWord, magnitudeWord, given]
      simp only [integerValue, unreadable]
      rfl
  | index denotes unreadable =>
      obtain ⟨magnitude, _, isMagnitude, _⟩ := denotes.word_eq isUnsigned
      rw [enterWord, isMagnitude, variableIndex_eq_error unreadable]
      rfl
  | @range value index denotes found outside =>
      obtain ⟨magnitude, _, isMagnitude, _⟩ := denotes.word_eq isUnsigned
      rw [enterWord, isMagnitude, found]
      simp only [Halt.lift, Except.mapError, bind, Except.bind, if_neg outside]
      rfl

/-- A term without a sign in its magnitude does the same to words and to numbers. -/
theorem enterWord_cases
    (isUnsigned : term.Unsigned)
    (row : List Int64) :
    (∃ entered, term.enterWord row = .ok entered ∧
      term.enter (numbersOf row) = .ok (numbersOf entered)) ∨
    ∃ failure, term.enterWord row = .error (.failure failure) ∧
      term.enter (numbersOf row) = .error failure := by
  have length : (numbersOf row).length = row.length := List.length_map _
  rcases term.fits_or_misfit row.length with ⟨index, value, fits⟩ | ⟨failure, misfit⟩
  · obtain ⟨word, entered, rfl⟩ := fits.enterWord_eq isUnsigned
    rw [← length] at fits
    refine .inl ⟨_, entered, ?_⟩
    rw [fits.enter_eq, numbersOf, numbersOf, List.map_set]
  · have halted := misfit.enterWord_eq isUnsigned
    rw [← length] at misfit
    exact .inr ⟨failure, halted, misfit.enter_eq⟩

end Term

/-- Terms without signs in their magnitudes fill words as they fill numbers. -/
theorem WordRow.enterAll_represents
    {terms : List Term}
    (unsigned : ∀ term ∈ terms, term.Unsigned)
    (row : List Int64) :
    (enterAll row terms).Represents (FilledRow.enterAll (numbersOf row) terms) := by
  induction terms generalizing row with
  | nil =>
      exact ⟨rfl, rfl⟩
  | cons term rest inductionHypothesis =>
      rw [List.forall_mem_cons] at unsigned
      rw [enterAll, FilledRow.enterAll]
      rcases Term.enterWord_cases unsigned.1 row with
        ⟨entered, isEntered, isNumbers⟩ | ⟨failure, halted, failed⟩
      · rw [isEntered, isNumbers]
        exact inductionHypothesis unsigned.2 entered
      · rw [halted, failed]
        exact ⟨rfl, rfl⟩

/-- A line fills words with its coefficients, and no negation of a word overflows. -/
theorem fillWords_represents (line : String) (row : List Int64) :
    (fillWords (tokenize line) row).Represents
      (fillCoefficients (tokenize line) (numbersOf row)) :=
  WordRow.enterAll_represents magnitude_inRange row

/-- The least word is not to be had by a sign in front of a magnitude. -/
example :
    fillWords (tokenize "-9223372036854775807x2-9223372036854775808x1") [5, 6] =
      ⟨[5, -9223372036854775807], some (.failure (.invalidNumber "9223372036854775808"))⟩ := by
  decide

end LinearProgram
