import LinearProgram.Text.Ranges

namespace LinearProgram.Text

/-!
# Blank characters

Blanks are the characters with the Unicode property White_Space. They never
carry meaning in a problem, so a line is compared and scanned without them.
-/

/-- The code points with the Unicode property White_Space. -/
def blankRanges : List (Nat × Nat) :=
  [(0x9, 0xD), (0x20, 0x20), (0x85, 0x85), (0xA0, 0xA0), (0x1680, 0x1680),
    (0x2000, 0x200A), (0x2028, 0x2029), (0x202F, 0x202F), (0x205F, 0x205F),
    (0x3000, 0x3000)]

/-- Whether a character has the Unicode property White_Space. -/
def isBlank (character : Char) : Bool :=
  inRanges character.toNat blankRanges

/-- The characters of a text that are not blank, in order. -/
def compact (text : List Char) : List Char :=
  text.filter fun character => !isBlank character

/-- The blanks are listed in increasing order. -/
theorem increaseFrom_blankRanges : increaseFrom 0 blankRanges := by
  decide

/-- What is left of a text holds no blank. -/
theorem isBlank_of_mem_compact
    {character : Char}
    {text : List Char}
    (member : character ∈ compact text) :
    isBlank character = false := by
  simpa using (List.mem_filter.mp member).2

/-- What is left of two texts in a row is what is left of each of them. -/
theorem compact_append (first second : List Char) :
    compact (first ++ second) = compact first ++ compact second := by
  simp [compact]

/-- A text without blanks stays as it is. -/
theorem compact_eq_self
    {text : List Char}
    (unbroken : ∀ character ∈ text, isBlank character = false) :
    compact text = text := by
  rw [compact, List.filter_eq_self]
  intro character member
  simp [unbroken character member]

end LinearProgram.Text
