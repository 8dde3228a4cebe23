import LinearProgram.Line.Terms
import LinearProgram.Proofs.Grammar.Problem
import LinearProgram.Proofs.Line.Shape
import LinearProgram.Proofs.Text.Digits
import Mathlib.Data.List.Forall2

namespace LinearProgram.Grammar

/-!
# How problems are written

A problem is written one line after the other: the objective behind the keyword
of its direction, the constraints, the first of them behind a keyword that
introduces them all, and the terminator. Blanks may be inserted anywhere, and
what follows the terminator does not matter.
-/

/-- A number in decimal, with any number of leading zeros. -/
def SpellsNumber (number : Nat) (text : List Char) : Prop :=
  ∃ zeros, text = List.replicate zeros '0' ++ Numeral.ofNat number

theorem isDigits_of_spellsNumber
    {number : Nat}
    {text : List Char}
    (spells : SpellsNumber number text) :
    Numeral.IsDigits text := by
  obtain ⟨zeros, rfl⟩ := spells
  constructor
  · exact List.append_ne_nil_of_right_ne_nil _ Nat.toDigits_ne_nil
  · intro digit member
    rcases List.mem_append.mp member with isZero | inDigits
    · rw [List.eq_of_mem_replicate isZero]
      rfl
    · exact Numeral.isDigit_of_mem_ofNat number inDigits

/-- Zeros in front of a numeral do not change its number. -/
theorem number_of_spellsNumber
    {number : Nat}
    {text : List Char}
    (spells : SpellsNumber number text) :
    Numeral.number text = number := by
  obtain ⟨zeros, rfl⟩ := spells
  rw [Numeral.number, Nat.ofDigitChars_append, Nat.ofDigitChars_replicate_zero,
    Nat.mul_zero]
  simp [Numeral.ofNat]

theorem exists_cons_of_spellsNumber
    {number : Nat}
    {text : List Char}
    (spells : SpellsNumber number text) :
    ∃ first rest, text = first :: rest ∧ first.isDigit ∧
      ∀ digit ∈ rest, digit.isDigit := by
  have isDigits := isDigits_of_spellsNumber spells
  obtain ⟨first, rest, rfl⟩ := List.exists_cons_of_ne_nil isDigits.filled
  exact ⟨first, rest, rfl, List.forall_mem_cons.mp isDigits.digits⟩

/-- A numeral that fits is read as an index. -/
theorem index?_of_spellsNumber
    {number : Nat}
    {text : List Char}
    (spells : SpellsNumber number text)
    (fits : number ≤ Numeral.maxIndex) :
    Numeral.index? text = some number := by
  rw [(isDigits_of_spellsNumber spells).index?_eq_some_iff]
  exact ⟨number_of_spellsNumber spells, fits⟩

theorem value?_of_spellsNumber
    {number : Nat}
    {text : List Char}
    (spells : SpellsNumber number text)
    (fits : (number : Int) ≤ Numeral.maxValue) :
    Numeral.value? text = some (number : Int) := by
  rw [(isDigits_of_spellsNumber spells).value?_eq_some_iff, number_of_spellsNumber spells]
  exact ⟨rfl, fits⟩

/-- A variable is read as its index whatever the case of its letter. -/
theorem variableIndex_of_spellsNumber
    {letter : Char}
    {number : Nat}
    {text : List Char}
    (isLetter : letter = 'x' ∨ letter = 'X')
    (spells : SpellsNumber number text)
    (fits : number ≤ Numeral.maxIndex) :
    variableIndex (String.ofList (letter :: text)) = .ok number := by
  have oneByte : letter.utf8Size = 1 := by
    rcases isLetter with rfl | rfl <;> rfl
  rw [variableIndex, String.toList_ofList]
  simp only [oneByte, if_true, index?_of_spellsNumber spells fits]

/-- A keyword in any ASCII case. -/
def SpellsKeyword (keyword text : List Char) : Prop :=
  text.map Char.toLower = keyword

/-- The sign of a term, of which the plus sign of a leading term may be left out. -/
inductive SpellsSign (leading : Bool) : Sign → List Char → Prop where
  | plus : SpellsSign leading .plus ['+']
  | hyphen : SpellsSign leading .minus ['-']
  | enDash : SpellsSign leading .minus ['–']
  | emDash : SpellsSign leading .minus ['—']
  | omitted (isLeading : leading = true) : SpellsSign leading .plus []

/-- The magnitude of a term, if it has one. -/
inductive SpellsMagnitude : Option Nat → List Char → Prop where
  | number {value : Nat} {text : List Char} (spells : SpellsNumber value text) :
      SpellsMagnitude (some value) text
  | omitted : SpellsMagnitude none []

/-- A term: its sign, its magnitude and its variable. -/
inductive SpellsMonomial (leading : Bool) (term : Monomial) : List Char → Prop where
  | parts
      {sign magnitude index : List Char}
      {letter : Char}
      (spellsSign : SpellsSign leading term.sign sign)
      (spellsMagnitude : SpellsMagnitude term.magnitude magnitude)
      (isLetter : letter = 'x' ∨ letter = 'X')
      (spellsIndex : SpellsNumber term.index index) :
      SpellsMonomial leading term (sign ++ magnitude ++ letter :: index)

/-- The terms of a line, of which the first is a leading one. -/
inductive SpellsTerms : Bool → List Monomial → List Char → Prop where
  | nil {leading : Bool} : SpellsTerms leading [] []
  | cons
      {leading : Bool}
      {term : Monomial}
      {terms : List Monomial}
      {text rest : List Char}
      (spellsHead : SpellsMonomial leading term text)
      (spellsRest : SpellsTerms false terms rest) :
      SpellsTerms leading (term :: terms) (text ++ rest)

/-- The symbol of a relation. -/
def symbol : Relation → List Char
  | .le => ['<', '=']
  | .eq => ['=']
  | .ge => ['>', '=']

/-- An objective behind the keyword of its direction. -/
inductive SpellsObjective (direction : Direction) (objective : Expression) :
    List Char → Prop where
  | parts
      {keyword terms : List Char}
      (spellsKeyword : SpellsKeyword direction.keyword keyword)
      (spellsTerms : SpellsTerms true objective.terms terms) :
      SpellsObjective direction objective (keyword ++ terms)

/-- The terms of a constraint, its relation and its bound. -/
inductive SpellsConstraint (constraint : Constraint) : List Char → Prop where
  | parts
      {terms bound : List Char}
      (spellsTerms : SpellsTerms true constraint.expression.terms terms)
      (spellsBound : SpellsNumber constraint.bound bound) :
      SpellsConstraint constraint (terms ++ symbol constraint.relation ++ bound)

/-- The keywords that introduce the constraints. -/
def initializers : List (List Char) :=
  ["subjectto".toList, "s.t.".toList, "s.t".toList, "st".toList]

/-- The lines of a problem up to the terminator. -/
inductive Problem.Spells (problem : Problem) : List (List Char) → Prop where
  | lines
      {objective keyword initializer first terminator : List Char}
      {others : List (List Char)}
      (spellsObjective :
        SpellsObjective problem.direction problem.objective objective)
      (isInitializer : keyword ∈ initializers)
      (spellsInitializer : SpellsKeyword keyword initializer)
      (spellsFirst : SpellsConstraint problem.first first)
      (spellsOthers : List.Forall₂ SpellsConstraint problem.others others)
      (spellsTerminator : SpellsKeyword "end".toList terminator) :
      problem.Spells
        (objective :: (initializer ++ first) :: (others ++ [terminator]))

/-- A text into which blanks other than line feeds have been inserted. -/
inductive Padded : List Char → List Char → Prop where
  | nil : Padded [] []
  | keep {line padded : List Char} (character : Char) (rest : Padded line padded) :
      Padded (character :: line) (character :: padded)
  | insert
      {line padded : List Char}
      {character : Char}
      (blank : Text.isBlank character)
      (sameLine : character ≠ '\n')
      (rest : Padded line padded) :
      Padded line (character :: padded)

/-- Padded lines, with blank lines between them. -/
inductive Laid : List (List Char) → List (List Char) → Prop where
  | nil : Laid [] []
  | line
      {line padded : List Char}
      {lines layout : List (List Char)}
      (head : Padded line padded)
      (rest : Laid lines layout) :
      Laid (line :: lines) (padded :: layout)
  | blankLine
      {padded : List Char}
      {lines layout : List (List Char)}
      (head : Padded [] padded)
      (rest : Laid lines layout) :
      Laid lines (padded :: layout)

/--
The text of a problem, which may go on arbitrarily on the lines behind the
terminator.
-/
inductive Problem.Renders (problem : Problem) : List Char → Prop where
  | ended
      {lines layout : List (List Char)}
      (spells : problem.Spells lines)
      (laid : Laid lines layout) :
      problem.Renders (['\n'].intercalate layout)
  | goesOn
      {lines layout : List (List Char)}
      (spells : problem.Spells lines)
      (laid : Laid lines layout)
      (behind : List Char) :
      problem.Renders (['\n'].intercalate layout ++ '\n' :: behind)

end LinearProgram.Grammar
