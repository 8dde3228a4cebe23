import LinearProgram.Proofs.Line.Finds
import Mathlib.Data.List.DropRight

namespace LinearProgram

/-!
# The parts of a line in its text

What a line is checked for, said of its characters: the direction keywords that
occur in it, its equals signs and the digits behind them, and the balance
between its signs and its variables.
-/

theorem cut_eq_append
    {text : List Char}
    {cut : List Char × List Char}
    (member : cut ∈ cuts text) :
    cut.1 ++ cut.2 = text :=
  (mem_cuts_iff.mp member).1

/-- A token of these kinds is found exactly if there is a cut for it. -/
theorem any_tokenize
    {isKind : TokenKind → Bool}
    {holds : List Char × List Char → Bool}
    (locates : Locates isKind holds)
    (line : String) :
    ((tokenize line).any fun token => isKind token.kind) =
      (cuts line.toList).any holds := by
  rw [Bool.eq_iff_iff, List.any_eq_true, List.any_eq_true, ← List.countP_pos_iff,
    ← List.countP_pos_iff, locates.countP_tokenize line]

/-- A line in which the keyword of a direction occurs anywhere, in any case. -/
def Mentions (direction : Direction) (line : String) : Prop :=
  direction.keyword <:+: line.toList.map Char.toLower

/-- A direction is found wherever its keyword occurs in the text, in any case. -/
theorem hasKind_direction_tokenize
    {direction : Direction}
    {line : String} :
    hasKind (.direction direction) (tokenize line) ↔ Mentions direction line := by
  rw [hasKind, any_tokenize (Lexeme.locates_direction direction), List.any_eq_true]
  constructor
  · rintro ⟨cut, member, starts⟩
    obtain ⟨behind, split⟩ := Lexeme.startsWith_iff.mp starts
    rw [Mentions, ← cut_eq_append member, List.map_append, ← split]
    exact ⟨cut.1.map Char.toLower, behind, by simp⟩
  · rintro ⟨before, behind, split⟩
    rw [List.append_assoc] at split
    obtain ⟨passed, text, whole, _, lowered⟩ := List.map_eq_append_iff.mp split.symm
    have starts : Lexeme.startsWith direction.keyword text :=
      Lexeme.startsWith_iff.mpr ⟨behind, lowered.symm⟩
    have filled : text ≠ [] := by
      rintro rfl
      have long := (Lexeme.startsWith_iff.mp starts).length_le
      rw [Lexeme.length_keyword] at long
      cases long
    exact ⟨(passed, text), mem_cuts_iff.mpr ⟨whole.symm, filled⟩, starts⟩

/-- A condition on the next character holds at as many cuts as there are such characters. -/
theorem countP_cutsFrom
    (holds : Char → Bool)
    (before text : List Char) :
    ((cutsFrom before text).countP fun cut => cut.2.head?.any holds) =
      text.countP holds := by
  induction text generalizing before with
  | nil =>
      rfl
  | cons character rest inductionHypothesis =>
      rw [cutsFrom, List.countP_cons, List.countP_cons, inductionHypothesis]
      rfl

/-- The signs among the tokens are the sign characters of the line. -/
theorem signCount_tokenize (line : String) :
    signCount (tokenize line) = line.toList.countP Lexeme.isSign := by
  rw [signCount, Lexeme.locates_sign.countP_tokenize line]
  exact countP_cutsFrom Lexeme.isSign [] line.toList

/-- The variables among the tokens are the cuts at which a variable is spelled. -/
theorem variableCount_tokenize (line : String) :
    variableCount (tokenize line) = (cuts line.toList).countP Lexeme.variableAt :=
  Lexeme.locates_variable.countP_tokenize line

/--
A line with a sign for each variable, which its first variable may do without.
-/
def Balanced (line : String) : Prop :=
  line.toList.countP Lexeme.isSign ≤ (cuts line.toList).countP Lexeme.variableAt ∧
    (cuts line.toList).countP Lexeme.variableAt ≤
      line.toList.countP Lexeme.isSign + 1

/-- The balance of signs and variables can be told from the text. -/
theorem signsBalance_tokenize
    {line : String} :
    signsBalance (tokenize line) ↔ Balanced line := by
  rw [signsBalance, signCount_tokenize, variableCount_tokenize, Bool.and_eq_true,
    decide_eq_true_eq, decide_eq_true_eq]
  rfl

namespace Lexeme

/-- An equals sign belongs to a relation, as its last character. -/
theorem equal_of_isRelation
    {first : Char}
    {rest : List Char}
    (isRelation : (ofChars first rest).kind.isRelation) :
    ∃ leading, first :: rest.take (ofChars first rest).extra = leading ++ ['='] ∧
      '=' ∉ leading := by
  have shape := ofChars_shape first rest
  generalize ofChars first rest = lexeme at shape isRelation ⊢
  cases shape with
  | equal symbol =>
      exact ⟨[], by simp [symbol], by simp⟩
  | atMost behind symbol next =>
      exact ⟨['<'], by simp [symbol, next], by simp⟩
  | atLeast behind symbol next =>
      exact ⟨['>'], by simp [symbol, next], by simp⟩
  | _ =>
      cases isRelation

/-- No other lexeme has an equals sign in it. -/
theorem isRelation_of_equal
    {first : Char}
    {rest : List Char}
    (member : '=' ∈ first :: rest.take (ofChars first rest).extra) :
    (ofChars first rest).kind.isRelation := by
  rcases List.mem_cons.mp member with rfl | inTaken
  · rfl
  · obtain ⟨offset, inBounds, isEqual⟩ := List.mem_iff_getElem.mp inTaken
    rw [List.length_take, Nat.lt_min] at inBounds
    obtain ⟨character, behind, shape, interior⟩ := interior_ofChars inBounds.1
    rw [List.getElem_take] at isEqual
    rw [List.drop_eq_getElem_cons inBounds.2, isEqual] at shape
    cases shape
    cases interior with
    | equal isRelation only symbol =>
        exact isRelation
    | digit digit =>
        cases digit
    | letter letter noVariable noDirection =>
        exact absurd letter (by decide +kernel)
    | keyword letter noDirection last =>
        exact absurd letter (by decide +kernel)

/-- An equals sign is found in the first lexeme or behind it. -/
theorem equal_mem_iff
    {first : Char}
    {rest : List Char} :
    '=' ∈ first :: rest ↔
      (ofChars first rest).kind.isRelation ∨
      '=' ∈ rest.drop (ofChars first rest).extra := by
  rw [← take_append_drop_extra first rest, List.mem_append]
  constructor
  · rintro (inLexeme | behind)
    · exact .inl (isRelation_of_equal inLexeme)
    · exact .inr behind
  · rintro (isRelation | behind)
    · obtain ⟨leading, spelled, _⟩ := equal_of_isRelation isRelation
      rw [spelled]
      exact .inl (by simp)
    · exact .inr behind

end Lexeme

theorem equal_ne_of_isBlank
    {character : Char}
    (blank : Text.isBlank character) :
    '=' ≠ character := by
  rintro rfl
  cases blank

/-- A line has a relation if its text has an equals sign. -/
theorem relation?_tokensFrom
    (before text : List Char) :
    ∀ position, (relation? (tokensFrom position 0 text)).isSome ↔ '=' ∈ text := by
  induction before, text using scan_induction with
  | finish before =>
      simp [tokensFrom, relation?, TokenKind.relation?]
  | blank before first rest blank inductionHypothesis =>
      intro position
      rw [tokensFrom_blank blank, inductionHypothesis, List.mem_cons,
        or_iff_right (equal_ne_of_isBlank blank)]
  | lexeme before first rest filled inductionHypothesis =>
      intro position
      rw [tokensFrom_lexeme filled, relation?, List.findSome?_cons,
        Lexeme.equal_mem_iff, TokenKind.isRelation]
      cases found : (Lexeme.ofChars first rest).kind.relation? with
      | some relation =>
          simp
      | none =>
          simpa [relation?] using inductionHypothesis _

/-- A line has a relation exactly if it has an equals sign. -/
theorem relation?_tokenize
    {line : String} :
    (relation? (tokenize line)).isSome ↔ '=' ∈ line.toList :=
  relation?_tokensFrom [] line.toList 0

/-- Whether the text behind an equals sign starts with a digit, after any blanks. -/
def startsDigit (text : List Char) : Bool :=
  (text.dropWhile Text.isBlank).head?.any Char.isDigit

/-- The first token is an integer exactly if a digit is the first to be seen. -/
theorem tokensFrom_eq_cons (position : Nat) (text : List Char) :
    ∃ token rest, tokensFrom position 0 text = token :: rest ∧
      (token.kind = .integer ↔ startsDigit text) := by
  induction text generalizing position with
  | nil =>
      exact ⟨_, _, rfl, by simp [startsDigit]⟩
  | cons first rest inductionHypothesis =>
      cases blank : Text.isBlank first with
      | true =>
          rw [tokensFrom_blank blank, startsDigit, List.dropWhile_cons_of_pos blank]
          exact inductionHypothesis _
      | false =>
          refine ⟨_, _, tokensFrom_lexeme blank position rest, ?_⟩
          rw [startsDigit, List.dropWhile_cons_of_neg (by simp [blank])]
          simpa using Lexeme.integer_ofChars_iff

/-- A text in which an equals sign is followed by a digit, after any blanks. -/
def Assigns (text : List Char) : Prop :=
  ∃ behind, '=' :: behind <:+ text ∧ startsDigit behind

theorem eq_nil_of_append_cons_eq
    {before others leading : List Char}
    {character : Char}
    (same : before ++ character :: others = leading ++ [character])
    (notBefore : character ∉ leading) :
    others = [] := by
  rcases List.eq_nil_or_concat others with none | ⟨middle, last, rfl⟩
  · exact none
  · rw [List.concat_eq_append, ← List.cons_append, ← List.append_assoc] at same
    obtain ⟨isLeading, _⟩ := List.append_inj' same rfl
    exact absurd (by rw [← isLeading]; simp) notBefore

/-- A number is assigned right behind the first lexeme, or later. -/
theorem Lexeme.assigns_iff
    {first : Char}
    {rest : List Char} :
    Assigns (first :: rest) ↔
      ((ofChars first rest).kind.isRelation ∧
        startsDigit (rest.drop (ofChars first rest).extra)) ∨
        Assigns (rest.drop (ofChars first rest).extra) := by
  have whole := take_append_drop_extra first rest
  constructor
  · rintro ⟨behind, ⟨before, split⟩, digit⟩
    rw [← whole] at split
    rcases List.append_eq_append_iff.mp split
        with ⟨passed, lexeme, split⟩ | ⟨passed, _, split⟩
    · cases passed with
      | nil =>
          exact .inr ⟨behind, ⟨[], split⟩, digit⟩
      | cons equal others =>
          obtain ⟨rfl, rfl⟩ := List.cons_eq_cons.mp split
          have isRelation : (ofChars first rest).kind.isRelation :=
            isRelation_of_equal (by rw [lexeme]; simp)
          obtain ⟨leading, spelled, notBefore⟩ := equal_of_isRelation isRelation
          rw [lexeme] at spelled
          obtain rfl := eq_nil_of_append_cons_eq spelled notBefore
          exact .inl ⟨isRelation, digit⟩
    · exact .inr ⟨behind, ⟨passed, split.symm⟩, digit⟩
  · rintro (⟨isRelation, digit⟩ | ⟨behind, isSuffix, digit⟩)
    · obtain ⟨leading, spelled, _⟩ := equal_of_isRelation isRelation
      refine ⟨_, ⟨leading, ?_⟩, digit⟩
      rw [← whole, spelled]
      simp
    · exact ⟨behind, isSuffix.trans ⟨_, whole⟩, digit⟩

theorem assigns_blank_cons_iff
    {first : Char}
    {rest : List Char}
    (blank : Text.isBlank first) :
    Assigns (first :: rest) ↔ Assigns rest := by
  constructor
  · rintro ⟨behind, isSuffix, digit⟩
    rcases List.suffix_cons_iff.mp isSuffix with whole | inRest
    · exact absurd (List.cons_eq_cons.mp whole).1 (equal_ne_of_isBlank blank)
    · exact ⟨behind, inRest, digit⟩
  · rintro ⟨behind, isSuffix, digit⟩
    exact ⟨behind, isSuffix.trans (List.suffix_cons first rest), digit⟩

/-- A line has a right-hand side if its text has a digit behind an equals sign. -/
theorem rightHandSide?_tokensFrom
    (before text : List Char) :
    ∀ position, (rightHandSide? (tokensFrom position 0 text)).isSome ↔
      Assigns text := by
  induction before, text using scan_induction with
  | finish before =>
      simp [tokensFrom, rightHandSide?, Assigns]
  | blank before first rest blank inductionHypothesis =>
      intro position
      rw [tokensFrom_blank blank, inductionHypothesis, assigns_blank_cons_iff blank]
  | lexeme before first rest filled inductionHypothesis =>
      intro position
      rw [tokensFrom_lexeme filled, Lexeme.assigns_iff]
      dsimp only
      generalize position + byteLength
        (first :: rest.take (Lexeme.ofChars first rest).extra) = stop
      obtain ⟨second, others, tokens, integer⟩ :=
        tokensFrom_eq_cons stop (rest.drop (Lexeme.ofChars first rest).extra)
      have behind := inductionHypothesis stop
      rw [tokens] at behind ⊢
      rw [rightHandSide?, ← integer, ← behind]
      split
      · next found =>
          exact iff_of_true rfl (.inl (by simpa using found))
      · next missing =>
          rw [Bool.and_eq_true, beq_iff_eq] at missing
          rw [or_iff_right missing]

/-- A line has a right-hand side exactly if a number is assigned in its text. -/
theorem rightHandSide?_tokenize
    {line : String} :
    (rightHandSide? (tokenize line)).isSome ↔ Assigns line.toList :=
  rightHandSide?_tokensFrom [] line.toList 0

/-- A text without the blanks at its ends. -/
def trim (text : List Char) : List Char :=
  (text.dropWhile Text.isBlank).rdropWhile Text.isBlank

/-- A text without blanks is trimmed already. -/
theorem trim_eq_self
    {text : List Char}
    (unbroken : ∀ character ∈ text, Text.isBlank character = false) :
    trim text = text := by
  have start : text.dropWhile Text.isBlank = text := by
    rw [List.dropWhile_eq_self_iff]
    intro nonempty
    simp [unbroken _ (List.getElem_mem nonempty)]
  rw [trim, start, List.rdropWhile_eq_self_iff]
  intro nonempty
  simp [unbroken _ (List.getLast_mem nonempty)]

/-- Blanks in front of a text move its tokens only. -/
theorem tokensFrom_blanks
    (position : Nat)
    (text : List Char) :
    ∃ reached, tokensFrom position 0 text =
      tokensFrom reached 0 (text.dropWhile Text.isBlank) := by
  induction text generalizing position with
  | nil =>
      exact ⟨position, rfl⟩
  | cons first rest inductionHypothesis =>
      cases blank : Text.isBlank first with
      | true =>
          rw [tokensFrom_blank blank, List.dropWhile_cons_of_pos blank]
          exact inductionHypothesis _
      | false =>
          rw [List.dropWhile_cons_of_neg (by simp [blank])]
          exact ⟨position, rfl⟩

/-- A text without tokens is blank. -/
theorem kinds_tokensFrom_eq_finish_iff
    {position : Nat}
    {text : List Char} :
    (tokensFrom position 0 text).map Token.kind = [.finish] ↔
      ∀ character ∈ text, Text.isBlank character := by
  induction text generalizing position with
  | nil =>
      simp [tokensFrom]
  | cons first rest inductionHypothesis =>
      cases blank : Text.isBlank first with
      | true =>
          rw [tokensFrom_blank blank, inductionHypothesis]
          simp [blank]
      | false =>
          rw [tokensFrom_lexeme blank]
          simp [blank, Lexeme.finish_ne_ofChars]

theorem rdropWhile_append_of_all
    {separates : Char → Bool}
    (text : List Char)
    {blanks : List Char}
    (all : ∀ character ∈ blanks, separates character) :
    (text ++ blanks).rdropWhile separates = text.rdropWhile separates := by
  rw [List.rdropWhile, List.reverse_append,
    List.dropWhile_append_of_pos (by simpa using all)]
  rfl

/--
A text that starts with a keyword and goes on with blanks is the keyword once
trimmed.
-/
theorem startsWith_and_blanks_iff
    {keyword text : List Char}
    (noBlanks : keyword.all fun letter => !Text.isBlank letter) :
    (Lexeme.startsWith keyword text ∧
        ∀ character ∈ text.drop keyword.length, Text.isBlank character) ↔
      (text.rdropWhile Text.isBlank).map Char.toLower = keyword := by
  constructor
  · rintro ⟨starts, blanks⟩
    have spelled : (text.take keyword.length).map Char.toLower = keyword := by
      simpa [Lexeme.startsWith] using starts
    have trimmed : (text.take keyword.length).rdropWhile Text.isBlank =
        text.take keyword.length := by
      rw [List.rdropWhile_eq_self_iff]
      intro nonempty
      have last :=
        List.mem_map_of_mem (f := Char.toLower) (List.getLast_mem nonempty)
      rw [spelled] at last
      have filled := List.all_eq_true.mp noBlanks _ last
      rw [Bool.not_eq_true'] at filled
      simp [Text.isBlank_of_toLower rfl filled]
    have dropped := rdropWhile_append_of_all (text.take keyword.length) blanks
    rw [List.take_append_drop] at dropped
    rw [dropped, trimmed, spelled]
  · intro spelled
    have whole : text.rdropWhile Text.isBlank ++ text.rtakeWhile Text.isBlank =
        text :=
      List.rdropWhile_append_rtakeWhile
    have length : (text.rdropWhile Text.isBlank).length = keyword.length := by
      rw [← spelled, List.length_map]
    constructor
    · rw [Lexeme.startsWith_iff, ← whole, List.map_append, spelled]
      exact List.prefix_append _ _
    · intro character member
      rw [← whole, ← length, List.drop_left] at member
      exact List.mem_rtakeWhile_imp member

/-- A line that says `end` and nothing else, in any case. -/
def IsEnd (line : String) : Prop :=
  (trim line.toList).map Char.toLower = ['e', 'n', 'd']

/-- The terminator can be told from the text that blanks leave. -/
theorem isTerminatorLine_tokenize
    {line : String} :
    isTerminatorLine (tokenize line) ↔ IsEnd line := by
  obtain ⟨reached, tokens⟩ := tokensFrom_blanks 0 line.toList
  rw [isTerminatorLine, tokenize, tokens, beq_iff_eq, IsEnd, trim,
    ← startsWith_and_blanks_iff (by decide)]
  cases shape : line.toList.dropWhile Text.isBlank with
  | nil =>
      simp [tokensFrom]
  | cons first rest =>
      have filled : Text.isBlank first = false := by
        have notBlank := List.head?_dropWhile_not Text.isBlank line.toList
        rw [shape] at notBlank
        exact notBlank
      rw [tokensFrom_lexeme filled, List.map_cons, List.cons_eq_cons,
        kinds_tokensFrom_eq_finish_iff, Lexeme.terminator_ofChars_iff]
      apply and_congr_right
      intro starts
      rw [Lexeme.ofChars_keyword (Lexeme.keyword?_of_startsWith_end starts)]
      rfl

end LinearProgram
