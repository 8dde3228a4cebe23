import LinearProgram.Proofs.Line.Parts

namespace LinearProgram

/-!
# The tokens that the text of a line spells out

The terms, the signs and the relations of a line can be read off its text place
by place, without scanning: a token of such a kind is found for each place that
meets a condition on the text around it, in the order of the places, with the
span and the text that the place gives it (`tokenize_spelledOut`). Words give way
to them, and `max` wins over an `x` with an index.
-/

open Lexeme

namespace Lexeme

/-- The token of a direction keyword at a cut. -/
def directionToken (direction : Direction) (cut : List Char × List Char) : Token :=
  .over (.direction direction) cut.1 (cut.2.take 3)

/-- A direction is found where its keyword stands. -/
theorem finds_direction (direction : Direction) :
    FindsTokens (· == .direction direction) (directionAt direction)
      (directionToken direction) :=
  .of_locates (locates_direction direction) fun before first rest isDirection => by
    have starts := direction_ofChars_iff.mp (beq_iff_eq.mp isDirection)
    rw [Lexeme.token, ofChars_keyword (keyword?_of_startsWith_direction starts)]
    rfl

theorem take_digitCount (text : List Char) :
    text.take (digitCount text) = text.takeWhile Char.isDigit :=
  (List.prefix_iff_eq_take.mp (List.takeWhile_prefix Char.isDigit)).symm

/-- The token of a variable at a cut: its letter and all the digits behind it. -/
def variableToken (cut : List Char × List Char) : Token :=
  .over .variable cut.1 (cut.2.take 1 ++ (cut.2.drop 1).takeWhile Char.isDigit)

/-- A variable is found where its letter stands in front of a digit. -/
theorem finds_variable : FindsTokens (· == .variable) variableAt variableToken :=
  .of_locates locates_variable fun before first rest isVariable => by
    have starts := variable_ofChars_iff.mp (beq_iff_eq.mp isVariable)
    rw [Lexeme.token, ofChars_variable starts, take_digitCount]
    rfl

/-- Whether a run of digits that is not the index of a variable starts at a cut. -/
def integerAt (cut : List Char × List Char) : Bool :=
  cut.2.head?.any Char.isDigit && !numberGoesOn cut

/-- The token of a run of digits at a cut, all of it. -/
def integerToken (cut : List Char × List Char) : Token :=
  .over .integer cut.1 (cut.2.takeWhile Char.isDigit)

/-- At the head of a lexeme there is an integer exactly if the lexeme is one. -/
theorem integerAt_head
    {before : List Char}
    {first : Char}
    {rest : List Char}
    (seam : Seam before (first :: rest)) :
    integerAt (before, first :: rest) = ((ofChars first rest).kind == .integer) := by
  rw [Bool.eq_iff_iff, beq_iff_eq, integer_ofChars_iff, integerAt, Bool.and_eq_true,
    List.head?_cons, Option.any_some, and_iff_left_iff_imp]
  intro digit
  rw [seam.number digit, Bool.not_false]

/-- No integer starts inside a lexeme. -/
theorem integerAt_interior
    {before : List Char}
    {first : Char}
    {rest : List Char}
    (seam : Seam before (first :: rest))
    {offset : Nat}
    (within : offset < (ofChars first rest).extra) :
    integerAt (before ++ first :: rest.take offset, rest.drop offset) = false := by
  rw [integerAt, ← Bool.not_eq_true, Bool.and_eq_true]
  rintro ⟨digit, starts⟩
  obtain ⟨character, behind, shape, _⟩ := interior_ofChars within
  have number : isNumber (ofChars first rest).kind :=
    isNumber_of_digit_interior within shape (by simpa [shape] using digit)
  rw [numberGoesOn_interior seam.direction number within] at starts
  cases starts

/-- An integer is found where digits start that do not go on from a number. -/
theorem finds_integer : FindsTokens (· == .integer) integerAt integerToken :=
  .of_starts rfl
    (fun before first rest blank => by
      rw [integerAt, List.head?_cons, Option.any_some, not_isDigit_of_isBlank blank,
        Bool.false_and])
    (fun _ _ _ seam => integerAt_head seam)
    (fun _ _ _ _ seam within => integerAt_interior seam within)
    (fun before first rest isInteger => by
      have digit := integer_ofChars_iff.mp (beq_iff_eq.mp isInteger)
      rw [Lexeme.token, ofChars_digit digit, take_digitCount, integerToken,
        List.takeWhile_cons_of_pos digit])

end Lexeme

/-- Whether a character is a sign of its own. -/
def Sign.spells : Sign → Char → Bool
  | .plus, character => character == '+'
  | .minus, character => isMinus character

namespace Lexeme

/-- Whether a given sign stands behind a cut. -/
def spelledAt (sign : Sign) (cut : List Char × List Char) : Bool :=
  cut.2.head?.any sign.spells

/-- The token of a sign at a cut. -/
def signToken (sign : Sign) (cut : List Char × List Char) : Token :=
  .over (.sign sign) cut.1 (cut.2.take 1)

theorem ofChars_sign
    {sign : Sign}
    {first : Char}
    {rest : List Char}
    (spells : sign.spells first) :
    ofChars first rest = ⟨.sign sign, 0⟩ := by
  cases sign with
  | plus =>
      rw [beq_iff_eq.mp spells, ofChars_plus]
  | minus =>
      rw [ofChars_minus spells]

/-- A sign is told by its character. -/
theorem ofChars_sign_iff
    {sign : Sign}
    {first : Char}
    {rest : List Char} :
    (ofChars first rest).kind = .sign sign ↔ sign.spells first := by
  constructor
  · intro kind
    have shape := ofChars_shape first rest
    generalize ofChars first rest = lexeme at shape kind
    cases shape with
    | plus isPlus =>
        cases kind
        exact beq_iff_eq.mpr isPlus
    | minus isMinus =>
        cases kind
        exact isMinus
    | _ =>
        cases kind
  · intro spells
    rw [ofChars_sign spells]

theorem spelledAt_of_not_signAt
    {cut : List Char × List Char}
    (noSign : signAt cut = false)
    (sign : Sign) :
    spelledAt sign cut = false := by
  obtain ⟨before, text⟩ := cut
  cases text with
  | nil =>
      rfl
  | cons first rest =>
      change isSign first = false at noSign
      rw [isSign, Bool.or_eq_false_iff] at noSign
      cases sign with
      | plus =>
          exact noSign.1
      | minus =>
          exact noSign.2

/-- Each of the signs is located by its characters. -/
theorem locates_spelled (sign : Sign) :
    Locates (· == .sign sign) (spelledAt sign) where
  finish := rfl
  blank before first rest blank :=
    spelledAt_of_not_signAt (locates_sign.blank before rest blank) sign
  head boundary := by
    rw [Bool.eq_iff_iff, beq_iff_eq, ofChars_sign_iff]
    rfl
  interior before first rest offset within :=
    spelledAt_of_not_signAt (locates_sign.interior before within) sign

/-- Each of the signs is found where one of its characters stands. -/
theorem finds_sign (sign : Sign) :
    FindsTokens (· == .sign sign) (spelledAt sign) (signToken sign) :=
  .of_locates (locates_spelled sign) fun before first rest found => by
    have spells := ofChars_sign_iff.mp (beq_iff_eq.mp found)
    rw [Lexeme.token, ofChars_sign spells]
    rfl

/-- Whether an equals sign stands behind a cut. -/
def equalAt (cut : List Char × List Char) : Bool :=
  cut.2.head? == some '='

/-- The token of the relation whose last character is the equals sign at a cut. -/
def relationToken (cut : List Char × List Char) : Token :=
  if cut.1.getLast? = some '<' then
    .over (.relation .le) cut.1.dropLast ['<', '=']
  else if cut.1.getLast? = some '>' then
    .over (.relation .ge) cut.1.dropLast ['>', '=']
  else
    .over (.relation .eq) cut.1 ['=']

/-- A relation ends with its equals sign. -/
theorem stop_relationToken (cut : List Char × List Char) :
    (relationToken cut).stop = byteLength (cut.1 ++ ['=']) := by
  obtain ⟨before, after⟩ := cut
  rw [relationToken]
  split
  · next last =>
      obtain ⟨earlier, rfl⟩ := List.getLast?_eq_some_iff.mp last
      simp
  · split
    · next last =>
        obtain ⟨earlier, rfl⟩ := List.getLast?_eq_some_iff.mp last
        simp
    · exact Token.stop_over _ before ['=']

/-- An equals sign that no other symbol awaits is a relation by itself. -/
theorem relationToken_alone
    {before after : List Char}
    (alone : before.getLast?.any awaitsEqual = false) :
    relationToken (before, after) = .over (.relation .eq) before ['='] := by
  have noSymbol {symbol : Char} (awaits : awaitsEqual symbol) :
      before.getLast? ≠ some symbol := by
    intro last
    rw [last, Option.any_some, awaits] at alone
    cases alone
  rw [relationToken, if_neg (noSymbol rfl), if_neg (noSymbol rfl)]

/-- No equals sign stands inside a lexeme that is not a relation. -/
theorem equalAt_lexeme
    {first : Char}
    {rest : List Char}
    (noRelation : (ofChars first rest).kind.isRelation = false)
    (before : List Char)
    {offset : Nat}
    (within : offset < (ofChars first rest).extra + 1) :
    equalAt (before ++ (first :: rest).take offset, (first :: rest).drop offset) =
      false := by
  rw [← Bool.not_eq_true]
  intro equal
  rw [equalAt, beq_iff_eq, List.head?_drop, List.getElem?_eq_some_iff] at equal
  obtain ⟨inText, isEqual⟩ := equal
  have member : '=' ∈ (first :: rest).take ((ofChars first rest).extra + 1) :=
    List.mem_take_iff_getElem.mpr ⟨offset, by omega, isEqual⟩
  rw [isRelation_of_equal member] at noRelation
  cases noRelation

/-- A relation is found where its equals sign stands. -/
theorem finds_relation : FindsTokens TokenKind.isRelation equalAt relationToken where
  finish := rfl
  blank before first rest blank := by
    simpa [equalAt] using (equal_ne_of_isBlank blank).symm
  lexeme {before first rest} seam := by
    cases isRelation : (ofChars first rest).kind.isRelation with
    | false =>
        rw [filter_cutsFrom_skip equalAt before (first :: rest) _ fun _ within =>
          equalAt_lexeme isRelation before within]
        simp [Lexeme.token, Token.over, isRelation]
    | true =>
        have shape := ofChars_shape first rest
        rw [Lexeme.token]
        generalize ofChars first rest = lexeme at shape isRelation ⊢
        cases shape with
        | equal symbol =>
            subst symbol
            rw [cutsFrom, List.filter_cons_of_pos rfl, List.map_cons,
              relationToken_alone (seam.relation rfl)]
            rfl
        | atMost behind symbol next =>
            subst symbol next
            simp [cutsFrom, equalAt, relationToken, Token.over, isRelation]
        | atLeast behind symbol next =>
            subst symbol next
            simp [cutsFrom, equalAt, relationToken, Token.over, isRelation]
        | _ =>
            cases isRelation

end Lexeme

/--
The terms, signs and relations of a line, told from its text: the tokens of each
kind are those of the cuts at which the text spells one. A relation is spelled
where its equals sign stands, and ends there.
-/
structure SpelledOut (line : String) : Prop where
  directionTokens (direction : Direction) :
    ((tokenize line).filter fun token => token.kind == .direction direction) =
      ((cuts line.toList).filter (directionAt direction)).map
        (directionToken direction)
  variableTokens :
    ((tokenize line).filter fun token => token.kind == .variable) =
      ((cuts line.toList).filter variableAt).map variableToken
  integerTokens :
    ((tokenize line).filter fun token => token.kind == .integer) =
      ((cuts line.toList).filter integerAt).map integerToken
  signTokens (sign : Sign) :
    ((tokenize line).filter fun token => token.kind == .sign sign) =
      ((cuts line.toList).filter (spelledAt sign)).map (signToken sign)
  relationTokens :
    ((tokenize line).filter fun token => token.kind.isRelation) =
      ((cuts line.toList).filter equalAt).map relationToken
  relationStops :
    ((tokenize line).filter fun token => token.kind.isRelation).map Token.stop =
      ((cuts line.toList).filter equalAt).map fun cut => byteLength (cut.1 ++ ['='])

/--
The tokens of a line can be told from its text. For each kind they are the places
that the characters around them mark, in order, with their spans and their texts.
-/
theorem tokenize_spelledOut (line : String) : SpelledOut line where
  directionTokens direction := (finds_direction direction).filter_tokenize line
  variableTokens := finds_variable.filter_tokenize line
  integerTokens := finds_integer.filter_tokenize line
  signTokens sign := (finds_sign sign).filter_tokenize line
  relationTokens := finds_relation.filter_tokenize line
  relationStops := by
    rw [finds_relation.filter_tokenize line, List.map_map]
    exact List.map_congr_left fun cut _ => stop_relationToken cut

/-- The last letter of `max` takes no index. -/
example :
    (tokenize "max3x1").map Token.kind =
      [.direction .max, .integer, .variable, .finish] := by
  rfl

end LinearProgram
