import LinearProgram.Line.Token
import LinearProgram.Text.Alphabetic
import LinearProgram.Text.Blank

namespace LinearProgram

/-!
# Lexemes and the tokens of a line

The first character of a lexeme, together with what follows it, decides the
lexeme's kind and how many further characters belong to it. A line is the
sequence of its lexemes with blanks anywhere between them. Keywords are read in
any ASCII case and may run straight into the term that follows.
-/

/-- The kind of a lexeme and the number of its characters after the first. -/
structure Lexeme where
  kind : TokenKind
  extra : Nat
  deriving Repr, DecidableEq

namespace Lexeme

/-- The keywords in the order in which they are tried, longer spellings first. -/
def keywords : List (List Char × TokenKind) :=
  [("subjectto".toList, .initializer),
    ("s.t.".toList, .initializer),
    ("s.t".toList, .initializer),
    ("st".toList, .initializer),
    ("max".toList, .direction .max),
    ("min".toList, .direction .min),
    ("end".toList, .terminator)]

/-- Whether a text starts with a keyword, in any ASCII case. -/
def startsWith (keyword : List Char) (text : List Char) : Bool :=
  (text.take keyword.length).map Char.toLower == keyword

/-- Whether a text starts with a direction keyword. -/
def startsDirection (text : List Char) : Bool :=
  startsWith "max".toList text || startsWith "min".toList text

/-- Whether a text starts with a variable, that is, `x` and a digit. -/
def startsVariable : List Char → Bool
  | letter :: digit :: _ => (letter == 'x' || letter == 'X') && digit.isDigit
  | _ => false

/-- The keyword at the head of a text. -/
def keyword? (text : List Char) : Option Lexeme :=
  (keywords.find? fun entry => startsWith entry.1 text).map fun entry =>
    ⟨entry.2, entry.1.length - 1⟩

/-- The number of digits at the head of a text. -/
def digitCount (text : List Char) : Nat :=
  (text.takeWhile Char.isDigit).length

/--
The number of characters by which a word goes on: letters and underscores, up
to where a variable or a direction keyword starts.
-/
def wordCount : List Char → Nat
  | [] => 0
  | character :: rest =>
      if (Text.isAlphabetic character || character == '_') &&
          !startsVariable (character :: rest) &&
          !startsDirection (character :: rest) then
        wordCount rest + 1
      else
        0

/-- Whether a character is a hyphen, an en dash or an em dash. -/
def isMinus (character : Char) : Bool :=
  character == '-' || character == '–' || character == '—'

/-- The lexeme that starts with a given character in front of a given text. -/
def ofChars (first : Char) (rest : List Char) : Lexeme :=
  if first == '+' then
    ⟨.sign .plus, 0⟩
  else if isMinus first then
    ⟨.sign .minus, 0⟩
  else if first == '=' then
    ⟨.relation .eq, 0⟩
  else if first == '<' && rest.head? == some '=' then
    ⟨.relation .le, 1⟩
  else if first == '>' && rest.head? == some '=' then
    ⟨.relation .ge, 1⟩
  else if first.isDigit then
    ⟨.integer, digitCount rest⟩
  else if startsVariable (first :: rest) then
    ⟨.variable, digitCount rest⟩
  else if Text.isAlphabetic first then
    (keyword? (first :: rest)).getD ⟨.word, wordCount rest⟩
  else
    ⟨.stray, 0⟩

end Lexeme

/-- The number of bytes that a text takes in UTF-8. -/
def byteLength : List Char → Nat
  | [] => 0
  | character :: rest => character.utf8Size + byteLength rest

/--
The tokens of a text that starts at a byte position, once its first `skip`
characters, which belong to a token already found, have been passed over.
-/
def tokensFrom (position skip : Nat) : List Char → List Token
  | [] => [⟨.finish, position, position, ""⟩]
  | first :: rest =>
      match skip with
      | remaining + 1 => tokensFrom (position + first.utf8Size) remaining rest
      | 0 =>
          if Text.isBlank first then
            tokensFrom (position + first.utf8Size) 0 rest
          else
            let lexeme := Lexeme.ofChars first rest
            let text := first :: rest.take lexeme.extra
            ⟨lexeme.kind, position, position + byteLength text, String.ofList text⟩ ::
              tokensFrom (position + first.utf8Size) lexeme.extra rest

/-- Passing over characters moves the position by the bytes that they take. -/
theorem tokensFrom_skip (position skip : Nat) (text : List Char) :
    tokensFrom position skip text =
      tokensFrom (position + byteLength (text.take skip)) 0 (text.drop skip) := by
  induction text generalizing position skip with
  | nil =>
      simp [tokensFrom, byteLength]
  | cons first rest inductionHypothesis =>
      cases skip with
      | zero =>
          simp [byteLength]
      | succ remaining =>
          rw [tokensFrom, inductionHypothesis]
          simp [byteLength, Nat.add_assoc]

/-- Blanks in front of a text belong to no token. -/
theorem tokensFrom_blank
    {first : Char}
    (blank : Text.isBlank first)
    (position : Nat)
    (rest : List Char) :
    tokensFrom position 0 (first :: rest) = tokensFrom (position + first.utf8Size) 0 rest := by
  simp [tokensFrom, blank]

/-- A lexeme at the head of a text becomes a token, and the tokens of what follows it are left. -/
theorem tokensFrom_lexeme
    {first : Char}
    (filled : Text.isBlank first = false)
    (position : Nat)
    (rest : List Char) :
    tokensFrom position 0 (first :: rest) =
      let lexeme := Lexeme.ofChars first rest
      let text := first :: rest.take lexeme.extra
      let stop := position + byteLength text
      ⟨lexeme.kind, position, stop, String.ofList text⟩ ::
        tokensFrom stop 0 (rest.drop lexeme.extra) := by
  rw [tokensFrom]
  simp only [filled, Bool.false_eq_true, if_false]
  rw [tokensFrom_skip (position + first.utf8Size)]
  simp [byteLength, Nat.add_assoc]

/-- The tokens of a line, the last of which marks its end. -/
def tokenize (line : String) : List Token :=
  tokensFrom 0 0 line.toList

end LinearProgram
