import LinearProgram.Text.Alphabetic
import LinearProgram.Text.Blank

namespace LinearProgram.Text

/-!
# Classes of characters

The classes that a line is scanned by are kept apart by their code points:
digits lie below all letters, blanks lie outside the letters of ASCII, and only
the capitals of ASCII change when a text is turned into small letters.
-/

/-- The digits are those of ASCII. -/
theorem toNat_of_isDigit
    {character : Char}
    (digit : character.isDigit) :
    48 ≤ character.toNat ∧ character.toNat ≤ 57 :=
  Char.isDigit_iff_toNat.mp digit

/-- No alphabetic character comes before the letters of ASCII. -/
theorem toNat_of_isAlphabetic
    {character : Char}
    (alphabetic : isAlphabetic character) :
    65 ≤ character.toNat := by
  have increase : increaseFrom 65 alphabeticRanges := by
    decide +kernel
  obtain ⟨range, member, atLeast, _⟩ := (inRanges_iff increase _).mp alphabetic
  have beyond := le_of_increaseFrom increase member
  omega

theorem isAlphabetic_of_toNat
    {character : Char}
    (letter : (65 ≤ character.toNat ∧ character.toNat ≤ 90) ∨
      (97 ≤ character.toNat ∧ character.toNat ≤ 122)) :
    isAlphabetic character := by
  rw [isAlphabetic, inRanges_iff increaseFrom_alphabeticRanges]
  rcases letter with capital | small
  · exact ⟨(0x41, 0x5A), List.mem_cons_self, capital⟩
  · exact ⟨(0x61, 0x7A), List.mem_cons_of_mem _ List.mem_cons_self, small⟩

/-- No blank lies among the digits and the letters of ASCII. -/
theorem toNat_of_isBlank
    {character : Char}
    (blank : isBlank character) :
    character.toNat < 48 ∨ 122 < character.toNat := by
  obtain ⟨range, member, bounds⟩ :=
    (inRanges_iff increaseFrom_blankRanges _).mp blank
  simp only [blankRanges, List.mem_cons, List.not_mem_nil, or_false] at member
  rcases member with rfl | rfl | rfl | rfl | rfl | rfl | rfl | rfl | rfl | rfl <;>
    simp only at bounds <;> omega

theorem isBlank_of_isDigit
    {character : Char}
    (digit : character.isDigit) :
    isBlank character = false := by
  rw [← Bool.not_eq_true]
  intro blank
  have outside := toNat_of_isBlank blank
  have bounds := toNat_of_isDigit digit
  omega

theorem isDigit_of_isAlphabetic
    {character : Char}
    (alphabetic : isAlphabetic character) :
    character.isDigit = false := by
  rw [← Bool.not_eq_true]
  intro digit
  have bound := toNat_of_isAlphabetic alphabetic
  have bounds := toNat_of_isDigit digit
  omega

/-- No letter is blank: the ranges of the two classes do not overlap. -/
theorem isBlank_of_isAlphabetic
    {character : Char}
    (alphabetic : isAlphabetic character) :
    isBlank character = false := by
  have apart :
      ∀ blanks ∈ blankRanges, ∀ letters ∈ alphabeticRanges,
        blanks.2 < letters.1 ∨ letters.2 < blanks.1 := by
    decide +kernel
  rw [← Bool.not_eq_true]
  intro blank
  obtain ⟨blanks, isBlanks, fromBlanks, toBlanks⟩ :=
    (inRanges_iff increaseFrom_blankRanges _).mp blank
  obtain ⟨letters, isLetters, fromLetters, toLetters⟩ :=
    (inRanges_iff increaseFrom_alphabeticRanges _).mp alphabetic
  have separated := apart blanks isBlanks letters isLetters
  omega

/-- Only capitals change when a text is turned into small letters. -/
theorem toNat_toLower (character : Char) :
    (character.toLower = character ∧
      ¬ (65 ≤ character.toNat ∧ character.toNat ≤ 90)) ∨
      (65 ≤ character.toNat ∧ character.toNat ≤ 90 ∧
        character.toLower.toNat = character.toNat + 32) := by
  have unfolded :
      (65 ≤ character.toNat ∧ character.toNat ≤ 90) ↔
        (character.val ≥ 'A'.val ∧ character.val ≤ 'Z'.val) :=
    Iff.rfl
  by_cases capital : 65 ≤ character.toNat ∧ character.toNat ≤ 90
  · refine .inr ⟨capital.1, capital.2, ?_⟩
    delta Char.toLower
    rw [dif_pos (unfolded.mp capital)]
    have inBounds : character.val.toNat ≤ 90 := capital.2
    change (character.val + 32).toNat = character.val.toNat + 32
    rw [UInt32.toNat_add]
    change (character.val.toNat + 32) % 4294967296 = _
    omega
  · refine .inl ⟨?_, capital⟩
    delta Char.toLower
    rw [dif_neg (fun inRange => capital (unfolded.mpr inRange))]

/-- Only the capitals of ASCII change in lower case. -/
theorem toLower_eq_self
    {character : Char}
    (noCapital : character.toNat < 65 ∨ 90 < character.toNat) :
    character.toLower = character := by
  rcases toNat_toLower character with ⟨unchanged, _⟩ | capital
  · exact unchanged
  · omega

theorem toLower_of_isDigit
    {character : Char}
    (digit : character.isDigit) :
    character.toLower = character := by
  have bounds := toNat_of_isDigit digit
  exact toLower_eq_self (by omega)

theorem toLower_of_isBlank
    {character : Char}
    (blank : isBlank character) :
    character.toLower = character := by
  have outside := toNat_of_isBlank blank
  exact toLower_eq_self (by omega)

/-- What becomes a small letter of ASCII is a letter. -/
theorem isAlphabetic_of_toLower
    {character : Char}
    (small : 97 ≤ character.toLower.toNat ∧ character.toLower.toNat ≤ 122) :
    isAlphabetic character := by
  apply isAlphabetic_of_toNat
  rcases toNat_toLower character with ⟨unchanged, _⟩ | capital
  · rw [unchanged] at small
    exact .inr small
  · exact .inl ⟨capital.1, capital.2.1⟩

/-- What becomes no small letter has not changed. -/
theorem eq_of_toLower_eq
    {character other : Char}
    (lowered : character.toLower = other)
    (noLetter : other.toNat < 97 ∨ 122 < other.toNat) :
    character = other := by
  rcases toNat_toLower character with ⟨unchanged, _⟩ | capital
  · exact unchanged.symm.trans lowered
  · rw [lowered] at capital
    omega

theorem isBlank_of_toLower
    {character letter : Char}
    (lowered : character.toLower = letter)
    (noBlank : isBlank letter = false) :
    isBlank character = false := by
  rw [← Bool.not_eq_true]
  intro blank
  rw [← lowered, toLower_of_isBlank blank, blank] at noBlank
  cases noBlank

end LinearProgram.Text
