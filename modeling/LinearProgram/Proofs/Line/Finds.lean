import LinearProgram.Proofs.Line.Seam

namespace LinearProgram

/-!
# Tokens that conditions on the text find

A condition on the cuts of a line finds the tokens of some kinds if each lexeme
of such a kind has one cut that meets it, and no other lexeme and no blank has
any. Then these tokens are those that the cuts give, in the same order, wherever
in its lexeme a cut stands (`FindsTokens.filter_tokenize`).
-/

open Lexeme

/-- The token that stands behind a text and consists of given characters. -/
def Token.over (kind : TokenKind) (before characters : List Char) : Token :=
  ⟨kind, byteLength before, byteLength before + byteLength characters,
    String.ofList characters⟩

@[simp] theorem Token.stop_over
    (kind : TokenKind)
    (before characters : List Char) :
    (Token.over kind before characters).stop = byteLength (before ++ characters) :=
  (byteLength_append before characters).symm

/-- The token of the lexeme at the head of a text. -/
def Lexeme.token (before : List Char) (first : Char) (rest : List Char) : Token :=
  .over (ofChars first rest).kind before
    (first :: rest.take (ofChars first rest).extra)

/-- The token of the lexeme behind a cut. -/
def Lexeme.tokenAt : List Char × List Char → Token
  | (before, []) => .over .finish before []
  | (before, first :: rest) => Lexeme.token before first rest

/--
A condition on cuts that finds the tokens of certain kinds: each lexeme of such
a kind holds one cut that meets it, which gives the lexeme's token, and nothing
else holds any.
-/
structure FindsTokens
    (isKind : TokenKind → Bool)
    (holds : List Char × List Char → Bool)
    (token : List Char × List Char → Token) : Prop where
  finish : isKind .finish = false
  blank (before : List Char) {first : Char} (rest : List Char) :
    Text.isBlank first → holds (before, first :: rest) = false
  lexeme {before : List Char} {first : Char} {rest : List Char} :
    Seam before (first :: rest) →
      ((cutsFrom before (first :: rest)).filter holds).map token =
        [Lexeme.token before first rest].filter (fun token => isKind token.kind) ++
          ((cutsFrom (before ++ first :: rest.take (ofChars first rest).extra)
              (rest.drop (ofChars first rest).extra)).filter holds).map token

namespace FindsTokens

variable
  {isKind : TokenKind → Bool}
  {holds : List Char × List Char → Bool}
  {token : List Char × List Char → Token}

/-- The tokens of these kinds are found at the cuts, wherever the scan stands. -/
theorem filter_tokensFrom
    (finds : FindsTokens isKind holds token)
    (before text : List Char) :
    Seam before text →
      ((tokensFrom (byteLength before) 0 text).filter fun token =>
          isKind token.kind) =
        ((cutsFrom before text).filter holds).map token := by
  induction before, text using scan_induction with
  | finish before =>
      intro _
      simp [tokensFrom, cutsFrom, finds.finish]
  | blank before first rest blank inductionHypothesis =>
      intro _
      have behind := inductionHypothesis (.blank blank before rest)
      rw [byteLength_append] at behind
      rw [tokensFrom_blank blank, cutsFrom,
        List.filter_cons_of_neg (by simp [finds.blank before rest blank])]
      simpa [byteLength] using behind
  | lexeme before first rest filled inductionHypothesis =>
      intro seam
      rw [finds.lexeme seam, ← inductionHypothesis seam.lexeme, byteLength_append,
        tokensFrom_lexeme filled, ← List.filter_append]
      rfl

/-- The tokens that a condition finds in a line. -/
theorem filter_tokenize
    (finds : FindsTokens isKind holds token)
    (line : String) :
    ((tokenize line).filter fun token => isKind token.kind) =
      ((cuts line.toList).filter holds).map token :=
  finds.filter_tokensFrom [] line.toList (.start line.toList)

/-- Tokens may be found where they start. -/
theorem of_starts
    (finish : isKind .finish = false)
    (blank : ∀ before first rest, Text.isBlank first →
      holds (before, first :: rest) = false)
    (head : ∀ before first rest, Seam before (first :: rest) →
      holds (before, first :: rest) = isKind (ofChars first rest).kind)
    (interior : ∀ before first rest offset, Seam before (first :: rest) →
      offset < (ofChars first rest).extra →
        holds (before ++ first :: rest.take offset, rest.drop offset) = false)
    (spelled : ∀ before first rest, isKind (ofChars first rest).kind →
      token (before, first :: rest) = Lexeme.token before first rest) :
    FindsTokens isKind holds token where
  finish := finish
  blank before first rest isBlank := blank before first rest isBlank
  lexeme {before first rest} seam := by
    have skipped := filter_cutsFrom_skip holds (before ++ [first]) rest
      (ofChars first rest).extra fun offset within => by
        simpa using interior before first rest offset seam within
    simp only [List.append_assoc, List.singleton_append] at skipped
    rw [cutsFrom, List.filter_cons, head before first rest seam, skipped]
    cases isFound : isKind (ofChars first rest).kind with
    | true =>
        simp [Lexeme.token, Token.over, isFound, spelled before first rest isFound]
    | false =>
        simp [Lexeme.token, Token.over, isFound]

/-- What tells where tokens start finds them, given how they are spelled. -/
theorem of_locates
    (locates : Locates isKind holds)
    (spelled : ∀ before first rest, isKind (ofChars first rest).kind →
      token (before, first :: rest) = Lexeme.token before first rest) :
    FindsTokens isKind holds token :=
  of_starts locates.finish
    (fun before _ rest blank => locates.blank before rest blank)
    (fun _ _ _ seam => locates.head seam.direction)
    (fun before _ _ _ _ within => locates.interior before within)
    spelled

end FindsTokens

/-- As many tokens are found as there are cuts at which one is located. -/
theorem Locates.countP_tokenize
    {isKind : TokenKind → Bool}
    {holds : List Char × List Char → Bool}
    (locates : Locates isKind holds)
    (line : String) :
    ((tokenize line).countP fun token => isKind token.kind) =
      (cuts line.toList).countP holds := by
  have finds : FindsTokens isKind holds tokenAt :=
    .of_locates locates fun _ _ _ _ => rfl
  rw [List.countP_eq_length_filter, finds.filter_tokenize, List.length_map,
    ← List.countP_eq_length_filter]

end LinearProgram
