import LinearProgram.Proofs.Text.Characters
import LinearProgram.Text.Case
import Mathlib.Data.List.Forall2

namespace LinearProgram.Text

/-!
# Other spellings of a text

A text may be spelled in capitals or small letters, and with any of the dashes for
a hyphen. A class of characters cannot tell spellings apart if it does not look at
the case and treats all dashes alike (`Interchangeable.congr`).
-/

/-- The hyphen and the dashes that may be written for it. -/
def dashes : List Char :=
  ['-', '–', '—']

/-- What holds of each dash. -/
theorem forall_mem_dashes_iff {holds : Char → Prop} :
    (∀ dash ∈ dashes, holds dash) ↔ holds '-' ∧ holds '–' ∧ holds '—' := by
  simp [dashes]

/-- Two characters that are the same but for their case, or are both dashes. -/
def Interchangeable (character other : Char) : Prop :=
  character.toLower = other.toLower ∨ character ∈ dashes ∧ other ∈ dashes

instance (character other : Char) : Decidable (Interchangeable character other) :=
  inferInstanceAs (Decidable (_ ∨ _))

/-- Two texts with interchangeable characters in each place. -/
def Respelled (text other : String) : Prop :=
  List.Forall₂ Interchangeable text.toList other.toList

instance (text other : String) : Decidable (Respelled text other) :=
  inferInstanceAs (Decidable (List.Forall₂ _ _ _))

/-- Turning a character into a small letter leaves it as it is or makes a letter of a letter. -/
theorem toLower_cases (character : Char) :
    character.toLower = character ∨
      (65 ≤ character.toNat ∧ character.toNat ≤ 90) ∧
        97 ≤ character.toLower.toNat ∧ character.toLower.toNat ≤ 122 := by
  rcases toNat_toLower character with ⟨unchanged, _⟩ | capital
  · exact .inl unchanged
  · exact .inr (by omega)

/-- Classes that do not tell letters of either case from each other. -/
def IgnoresCase (holds : Char → Bool) : Prop :=
  ∀ character : Char, holds character.toLower = holds character

/-- Interchangeable characters are alike to whatever ignores case and kinds of dashes. -/
theorem Interchangeable.congr
    {character other : Char}
    (interchangeable : Interchangeable character other)
    {holds : Char → Bool}
    (ignoresCase : IgnoresCase holds)
    (dashesAlike : ∀ dash ∈ dashes, holds dash = holds '-') :
    holds character = holds other := by
  rcases interchangeable with lowered | ⟨isDash, otherIsDash⟩
  · rw [← ignoresCase character, lowered, ignoresCase other]
  · rw [dashesAlike character isDash, dashesAlike other otherIsDash]

/-- A class without letters of ASCII does not look at the case. -/
theorem ignoresCase_of_noLetter
    {holds : Char → Bool}
    (noLetter : ∀ character, holds character →
      ¬ ((65 ≤ character.toNat ∧ character.toNat ≤ 90) ∨
        (97 ≤ character.toNat ∧ character.toNat ≤ 122))) :
    IgnoresCase holds := by
  intro character
  rcases toLower_cases character with unchanged | ⟨isCapital, isSmall⟩
  · rw [unchanged]
  · have capital : holds character = false := by
      rw [← Bool.not_eq_true]
      exact fun held => noLetter character held (.inl isCapital)
    have small : holds character.toLower = false := by
      rw [← Bool.not_eq_true]
      exact fun held => noLetter character.toLower held (.inr isSmall)
    rw [capital, small]

theorem ignoresCase_isBlank : IgnoresCase isBlank := by
  refine ignoresCase_of_noLetter fun character blank => ?_
  have outside := toNat_of_isBlank blank
  omega

theorem ignoresCase_isDigit : IgnoresCase Char.isDigit := by
  refine ignoresCase_of_noLetter fun character digit => ?_
  have bounds := toNat_of_isDigit digit
  omega

theorem ignoresCase_isAlphabetic : IgnoresCase isAlphabetic := by
  intro character
  rcases toLower_cases character with unchanged | letter
  · rw [unchanged]
  · rw [isAlphabetic_of_toNat (.inl letter.1), isAlphabetic_of_toNat (.inr letter.2)]

theorem toLower_toLower (character : Char) :
    character.toLower.toLower = character.toLower := by
  rcases toLower_cases character with unchanged | letter
  · rw [unchanged, unchanged]
  · exact toLower_eq_self (by omega)

theorem ignoresCase_toLower_beq (letter : Char) :
    IgnoresCase fun character => character.toLower == letter := by
  intro character
  simp only [toLower_toLower]

/-- A character that is no letter is written in one case only. -/
theorem ignoresCase_beq
    (symbol : Char)
    (noLetter : isAlphabetic symbol = false) :
    IgnoresCase (· == symbol) := by
  refine ignoresCase_of_noLetter fun character same letter => ?_
  rw [← beq_iff_eq.mp same, isAlphabetic_of_toNat letter] at noLetter
  cases noLetter

end LinearProgram.Text
