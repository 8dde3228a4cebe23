import LinearProgram.Proofs.Grammar.Spelling

namespace LinearProgram.Grammar

/-!
# Reading what is written

Each part of a line is read as the tokens that it is written with, whatever
stands around it. Only digits have to be kept apart from what follows them, and
a period from the keywords it may belong to.
-/

/-- A text in front of another is read as tokens that satisfy a condition. -/
def Reads (text rest : List Char) (holds : List Token → Prop) : Prop :=
  ∀ position, ∃ tokens reached,
    tokensFrom position 0 (text ++ rest) = tokens ++ tokensFrom reached 0 rest ∧
    holds tokens

namespace Reads

variable {text rest : List Char} {holds : List Token → Prop}

theorem nil (empty : holds []) : Reads [] rest holds :=
  fun position => ⟨[], position, rfl, empty⟩

theorem imp
    {weaker : List Token → Prop}
    (reads : Reads text rest holds)
    (implies : ∀ tokens, holds tokens → weaker tokens) :
    Reads text rest weaker := by
  intro position
  obtain ⟨tokens, reached, split, satisfied⟩ := reads position
  exact ⟨tokens, reached, split, implies tokens satisfied⟩

/-- Texts side by side are read one after the other. -/
theorem append
    {behind : List Char}
    {holdsBehind whole : List Token → Prop}
    (reads : Reads text (behind ++ rest) holds)
    (readsBehind : Reads behind rest holdsBehind)
    (together : ∀ tokens others, holds tokens → holdsBehind others →
      whole (tokens ++ others)) :
    Reads (text ++ behind) rest whole := by
  intro position
  obtain ⟨tokens, reached, split, satisfied⟩ := reads position
  obtain ⟨others, finished, splitBehind, satisfiedBehind⟩ := readsBehind reached
  refine ⟨tokens ++ others, finished, ?_,
    together tokens others satisfied satisfiedBehind⟩
  rw [List.append_assoc, split, splitBehind, List.append_assoc]

/-- A whole line is read as tokens up to the one that marks its end. -/
theorem tokenize
    (reads : Reads text [] holds) :
    ∃ tokens finish, LinearProgram.tokenize (String.ofList text) =
      tokens ++ [finish] ∧
      holds tokens ∧ finish.kind = .finish := by
  obtain ⟨tokens, reached, split, satisfied⟩ := reads 0
  rw [List.append_nil] at split
  refine ⟨tokens, ⟨.finish, reached, reached, ""⟩, ?_, satisfied, rfl⟩
  rw [LinearProgram.tokenize, String.toList_ofList, split]
  rfl

end Reads

/-- A single token of a given kind with a given text. -/
def IsToken (kind : TokenKind) (text : List Char) (tokens : List Token) : Prop :=
  ∃ start stop, tokens = [⟨kind, start, stop, String.ofList text⟩]

/-- A text that is one lexeme is read as one token. -/
theorem reads_lexeme
    {first : Char}
    (inside rest : List Char)
    {kind : TokenKind}
    (filled : Text.isBlank first = false)
    (lexeme : Lexeme.ofChars first (inside ++ rest) = ⟨kind, inside.length⟩) :
    Reads (first :: inside) rest (IsToken kind (first :: inside)) := by
  intro position
  have tokens := tokensFrom_lexeme filled position (inside ++ rest)
  rw [lexeme] at tokens
  simp only [List.take_left, List.drop_left] at tokens
  exact ⟨[_], _, tokens, position, _, rfl⟩

/-- A text that no digit starts, which may stand behind a number. -/
def NoDigit (text : List Char) : Prop :=
  ∀ character, text.head? = some character → character.isDigit = false

theorem noDigit_nil : NoDigit [] := by
  rintro character same
  cases same

/-- Digits are counted up to what is none. -/
theorem digitCount_append
    {digits rest : List Char}
    (allDigits : ∀ digit ∈ digits, digit.isDigit)
    (noDigit : NoDigit rest) :
    Lexeme.digitCount (digits ++ rest) = digits.length := by
  rw [Lexeme.digitCount, List.takeWhile_append_of_pos allDigits]
  cases rest with
  | nil =>
      simp
  | cons first behind =>
      simp [noDigit first rfl]

/-- A number is read whole if no digit follows it. -/
theorem reads_number
    {number : Nat}
    {text rest : List Char}
    (spells : SpellsNumber number text)
    (noDigit : NoDigit rest) :
    Reads text rest (IsToken .integer text) := by
  obtain ⟨first, inside, rfl, digit, digits⟩ := exists_cons_of_spellsNumber spells
  apply reads_lexeme inside rest (Text.isBlank_of_isDigit digit)
  rw [Lexeme.ofChars_digit digit, digitCount_append digits noDigit]

/-- A variable is read with its whole index if no digit follows it. -/
theorem reads_variable
    {letter : Char}
    {number : Nat}
    {index rest : List Char}
    (isLetter : letter = 'x' ∨ letter = 'X')
    (spells : SpellsNumber number index)
    (noDigit : NoDigit rest) :
    Reads (letter :: index) rest (IsToken .variable (letter :: index)) := by
  obtain ⟨first, inside, rfl, digit, digits⟩ := exists_cons_of_spellsNumber spells
  have starts : Lexeme.startsVariable (letter :: (first :: inside ++ rest)) :=
    Lexeme.startsVariable_iff.mpr ⟨isLetter, first, inside ++ rest, rfl, digit⟩
  have filled : Text.isBlank letter = false := by
    rcases isLetter with rfl | rfl <;> rfl
  apply reads_lexeme (first :: inside) rest filled
  rw [Lexeme.ofChars_variable starts, digitCount_append _ noDigit]
  rw [List.forall_mem_cons]
  exact ⟨digit, digits⟩

/-- The tokens of the sign of a term. -/
inductive SignTokens (leading : Bool) (sign : Sign) : List Token → Prop where
  | written {token : Token} (kind : token.kind = .sign sign) :
      SignTokens leading sign [token]
  | omitted (isLeading : leading = true) (isPlus : sign = .plus) :
      SignTokens leading sign []

/-- The tokens of the magnitude of a term. -/
inductive MagnitudeTokens : Option Nat → List Token → Prop where
  | written
      {token : Token}
      {value : Nat}
      (kind : token.kind = .integer)
      (reads : Term.integerValue token.text = .ok value) :
      MagnitudeTokens (some value) [token]
  | omitted : MagnitudeTokens none []

/-- The tokens of a term. -/
inductive MonomialTokens (leading : Bool) (term : Monomial) :
    List Token → Prop where
  | parts
      {signs magnitudes : List Token}
      {letter : Token}
      (sign : SignTokens leading term.sign signs)
      (magnitude : MagnitudeTokens term.magnitude magnitudes)
      (kind : letter.kind = .variable)
      (reads : variableIndex letter.text = .ok term.index) :
      MonomialTokens leading term (signs ++ magnitudes ++ [letter])

/-- The tokens of the terms of a line. -/
inductive TermsTokens : Bool → List Monomial → List Token → Prop where
  | nil {leading : Bool} : TermsTokens leading [] []
  | cons
      {leading : Bool}
      {term : Monomial}
      {terms : List Monomial}
      {tokens rest : List Token}
      (head : MonomialTokens leading term tokens)
      (behind : TermsTokens false terms rest) :
      TermsTokens leading (term :: terms) (tokens ++ rest)

/-- A sign is read whatever follows it, and nothing where it is left out. -/
theorem reads_sign
    {leading : Bool}
    {sign : Sign}
    {text : List Char}
    (spells : SpellsSign leading sign text)
    (rest : List Char) :
    Reads text rest (SignTokens leading sign) := by
  cases spells with
  | omitted isLeading =>
      exact .nil (.omitted isLeading rfl)
  | plus =>
      apply (reads_lexeme [] rest (by decide) (Lexeme.ofChars_plus rest)).imp
      rintro _ ⟨start, stop, rfl⟩
      exact .written rfl
  | _ =>
      apply (reads_lexeme [] rest (by decide)
        (Lexeme.ofChars_minus (by decide) rest)).imp
      rintro _ ⟨start, stop, rfl⟩
      exact .written rfl

/-- A magnitude is read as its value if no digit follows it. -/
theorem reads_magnitude
    {magnitude : Option Nat}
    {text rest : List Char}
    (spells : SpellsMagnitude magnitude text)
    (fits : ∀ value, magnitude = some value → (value : Int) ≤ Numeral.maxValue)
    (noDigit : NoDigit rest) :
    Reads text rest (MagnitudeTokens magnitude) := by
  cases spells with
  | omitted =>
      exact .nil .omitted
  | @number value _ spells =>
      apply (reads_number spells noDigit).imp
      rintro _ ⟨start, stop, rfl⟩
      refine .written rfl ?_
      rw [Term.integerValue, String.toList_ofList,
        value?_of_spellsNumber spells (fits value rfl)]

theorem noDigit_letter
    {letter : Char}
    (isLetter : letter = 'x' ∨ letter = 'X')
    (rest : List Char) :
    NoDigit (letter :: rest) := by
  rintro character same
  cases same
  rcases isLetter with rfl | rfl <;> rfl

/-- A term is read as its sign, its magnitude and its variable. -/
theorem reads_monomial
    {leading : Bool}
    {term : Monomial}
    {text rest : List Char}
    (spells : SpellsMonomial leading term text)
    (noDigit : NoDigit rest) :
    Reads text rest (MonomialTokens leading term) := by
  cases spells with
  | @parts sign magnitude index letter spellsSign spellsMagnitude isLetter
      spellsIndex =>
      have readsLetter := reads_variable isLetter spellsIndex noDigit
      have readsMagnitude := reads_magnitude spellsMagnitude term.magnitudeFits
        (noDigit_letter isLetter (index ++ rest))
      have readsSign := reads_sign spellsSign (magnitude ++ letter :: index ++ rest)
      have readsBehind :
          Reads (magnitude ++ letter :: index) rest fun tokens =>
            ∃ magnitudes token, tokens = magnitudes ++ [token] ∧
              MagnitudeTokens term.magnitude magnitudes ∧ token.kind = .variable ∧
              variableIndex token.text = .ok term.index := by
        refine readsMagnitude.append readsLetter ?_
        rintro magnitudes _ isMagnitude ⟨start, stop, rfl⟩
        exact ⟨magnitudes, _, rfl, isMagnitude, rfl,
          variableIndex_of_spellsNumber isLetter spellsIndex term.indexFits⟩
      rw [List.append_assoc]
      refine readsSign.append readsBehind ?_
      rintro signs _ isSign ⟨magnitudes, token, rfl, isMagnitude, kind, reads⟩
      rw [← List.append_assoc]
      exact .parts isSign isMagnitude kind reads

/-- A sign that is written ends a number. -/
theorem exists_cons_of_spellsSign
    {sign : Sign}
    {text : List Char}
    (spells : SpellsSign false sign text) :
    ∃ first rest, text = first :: rest ∧ first.isDigit = false := by
  cases spells with
  | omitted isLeading =>
      cases isLeading
  | _ =>
      exact ⟨_, _, rfl, rfl⟩

/-- Terms that are not leading start with their signs. -/
theorem noDigit_terms
    {terms : List Monomial}
    {text rest : List Char}
    (spells : SpellsTerms false terms text)
    (noDigit : NoDigit rest) :
    NoDigit (text ++ rest) := by
  cases spells with
  | nil =>
      exact noDigit
  | cons spellsHead spellsRest =>
      cases spellsHead with
      | parts spellsSign spellsMagnitude isLetter spellsIndex =>
          obtain ⟨first, others, rfl, notDigit⟩ :=
            exists_cons_of_spellsSign spellsSign
          rintro character same
          cases same
          exact notDigit

/-- Terms are read one after the other, each ended by the sign of the next. -/
theorem reads_terms
    {leading : Bool}
    {terms : List Monomial}
    {text rest : List Char}
    (spells : SpellsTerms leading terms text)
    (noDigit : NoDigit rest) :
    Reads text rest (TermsTokens leading terms) := by
  induction spells with
  | nil =>
      exact .nil .nil
  | cons spellsHead spellsRest inductionHypothesis =>
      have head := reads_monomial spellsHead (noDigit_terms spellsRest noDigit)
      exact head.append inductionHypothesis fun _ _ left right => .cons left right

/-- The tokens of an objective. -/
inductive ObjectiveTokens (direction : Direction) (objective : Expression) :
    List Token → Prop where
  | parts
      {keyword : Token}
      {tokens : List Token}
      (kind : keyword.kind = .direction direction)
      (terms : TermsTokens true objective.terms tokens) :
      ObjectiveTokens direction objective (keyword :: tokens)

/-- The tokens of a constraint. -/
inductive ConstraintTokens (constraint : Constraint) : List Token → Prop where
  | parts
      {tokens : List Token}
      {symbol bound : Token}
      (terms : TermsTokens true constraint.expression.terms tokens)
      (kind : symbol.kind = .relation constraint.relation)
      (boundKind : bound.kind = .integer)
      (reads : Term.integerValue bound.text = .ok constraint.bound) :
      ConstraintTokens constraint (tokens ++ [symbol, bound])

/-- A keyword is recognized in either case. -/
theorem startsWith_of_spellsKeyword
    {keyword text : List Char}
    (spells : SpellsKeyword keyword text)
    (rest : List Char) :
    Lexeme.startsWith keyword (text ++ rest) := by
  rw [Lexeme.startsWith_iff, List.map_append, spells]
  exact List.prefix_append _ _

/-- A keyword that is found in front of a text is read as its token. -/
theorem reads_keyword
    {letter : Char}
    {letters text rest : List Char}
    {kind : TokenKind}
    (spells : SpellsKeyword (letter :: letters) text)
    (filled : Text.isBlank letter = false)
    (found : Lexeme.keyword? (text ++ rest) = some ⟨kind, letters.length⟩) :
    Reads text rest (IsToken kind text) := by
  obtain ⟨first, inside, rfl, lowered, spellsInside⟩ :=
    List.map_eq_cons_iff.mp spells
  have length : inside.length = letters.length := by
    rw [← spellsInside, List.length_map]
  apply reads_lexeme inside rest (Text.isBlank_of_toLower lowered filled)
  rw [length]
  exact Lexeme.ofChars_keyword found

/-- A direction is read whatever follows it. -/
theorem reads_direction
    {direction : Direction}
    {text : List Char}
    (spells : SpellsKeyword direction.keyword text)
    (rest : List Char) :
    Reads text rest (IsToken (.direction direction) text) := by
  have found := Lexeme.keyword?_of_startsWith_direction
    (startsWith_of_spellsKeyword spells rest)
  cases direction with
  | min =>
      exact reads_keyword spells (by decide) found
  | max =>
      exact reads_keyword spells (by decide) found

theorem reads_terminator
    {text : List Char}
    (spells : SpellsKeyword "end".toList text)
    (rest : List Char) :
    Reads text rest (IsToken .terminator text) := by
  have found :=
    Lexeme.keyword?_of_startsWith_end (startsWith_of_spellsKeyword spells rest)
  exact reads_keyword (show SpellsKeyword ['e', 'n', 'd'] text from spells)
    (by decide) found

/-- A text that no period starts, which may stand behind a keyword. -/
def NoPeriod (text : List Char) : Prop :=
  text.head? ≠ some '.'

/-- The keywords that introduce the constraints, longer ones first. -/
theorem initializers_eq :
    initializers =
      [['s', 'u', 'b', 'j', 'e', 'c', 't', 't', 'o'], ['s', '.', 't', '.'],
        ['s', '.', 't'], ['s', 't']] := rfl

/-- Keywords that differ in their second letter are told apart. -/
theorem not_startsWith_of_second
    {first second : Char}
    {letters text : List Char}
    (other : Char)
    (others : List Char)
    (spells : SpellsKeyword (first :: second :: letters) text)
    (rest : List Char)
    (differs : second ≠ other) :
    Lexeme.startsWith (first :: other :: others) (text ++ rest) = false := by
  obtain ⟨_, _, rfl, _, spells⟩ := List.map_eq_cons_iff.mp spells
  obtain ⟨_, _, rfl, lowered, _⟩ := List.map_eq_cons_iff.mp spells
  simp [Lexeme.startsWith_cons, lowered, differs]

theorem not_startsWith_period
    {text : List Char}
    (noPeriod : NoPeriod text) :
    Lexeme.startsWith ['.'] text = false := by
  rw [← Bool.not_eq_true]
  intro starts
  obtain ⟨first, rest, rfl, lowered, _⟩ := Lexeme.exists_of_startsWith starts
  rw [Text.eq_of_toLower_eq lowered (by decide)] at noPeriod
  exact noPeriod rfl

/-- The longest keyword is read if no period follows a shorter one. -/
theorem reads_initializer
    {keyword text rest : List Char}
    (isInitializer : keyword ∈ initializers)
    (spells : SpellsKeyword keyword text)
    (noPeriod : NoPeriod rest) :
    Reads text rest (IsToken .initializer text) := by
  have starts := startsWith_of_spellsKeyword spells rest
  simp only [initializers_eq, List.mem_cons, List.not_mem_nil,
    or_false] at isInitializer
  rcases isInitializer with rfl | rfl | rfl | rfl
  · apply reads_keyword spells (by decide)
    simp only [Lexeme.keyword?, Lexeme.keywords_eq, List.find?, starts]
    rfl
  · have noSubject :=
      not_startsWith_of_second 'u' ['b', 'j', 'e', 'c', 't', 't', 'o'] spells rest
      (by decide)
    apply reads_keyword spells (by decide)
    simp only [Lexeme.keyword?, Lexeme.keywords_eq, List.find?, noSubject, starts]
    rfl
  · have noSubject :=
      not_startsWith_of_second 'u' ['b', 'j', 'e', 'c', 't', 't', 'o'] spells rest
      (by decide)
    have noLonger : Lexeme.startsWith ['s', '.', 't', '.'] (text ++ rest) =
        false := by
      obtain ⟨_, _, rfl, _, spells⟩ := List.map_eq_cons_iff.mp spells
      obtain ⟨_, _, rfl, _, spells⟩ := List.map_eq_cons_iff.mp spells
      obtain ⟨_, _, rfl, _, spells⟩ := List.map_eq_cons_iff.mp spells
      obtain rfl := List.map_eq_nil_iff.mp spells
      simp [Lexeme.startsWith_cons, not_startsWith_period noPeriod]
    apply reads_keyword spells (by decide)
    simp only [Lexeme.keyword?, Lexeme.keywords_eq, List.find?, noSubject,
      noLonger, starts]
    rfl
  · have noSubject :=
      not_startsWith_of_second 'u' ['b', 'j', 'e', 'c', 't', 't', 'o'] spells rest
      (by decide)
    have noLong := not_startsWith_of_second '.' ['t', '.'] spells rest (by decide)
    have noShort := not_startsWith_of_second '.' ['t'] spells rest (by decide)
    apply reads_keyword spells (by decide)
    simp only [Lexeme.keyword?, Lexeme.keywords_eq, List.find?, noSubject, noLong,
      noShort, starts]
    rfl

theorem reads_relation
    (relation : Relation)
    (rest : List Char) :
    Reads (symbol relation) rest
      (IsToken (.relation relation) (symbol relation)) := by
  cases relation with
  | le =>
      exact reads_lexeme ['='] rest (by decide) (Lexeme.ofChars_atMost rest)
  | eq =>
      exact reads_lexeme [] rest (by decide) (Lexeme.ofChars_equal rest)
  | ge =>
      exact reads_lexeme ['='] rest (by decide) (Lexeme.ofChars_atLeast rest)

theorem noPeriod_of_spellsNumber
    {number : Nat}
    {text : List Char}
    (spells : SpellsNumber number text)
    (rest : List Char) :
    NoPeriod (text ++ rest) := by
  obtain ⟨first, others, rfl, digit, _⟩ := exists_cons_of_spellsNumber spells
  intro same
  cases same
  cases digit

/-- A term starts with a sign, a digit or a letter. -/
theorem noPeriod_monomial
    {leading : Bool}
    {term : Monomial}
    {text : List Char}
    (spells : SpellsMonomial leading term text)
    (rest : List Char) :
    NoPeriod (text ++ rest) := by
  cases spells with
  | @parts sign magnitude index letter spellsSign spellsMagnitude isLetter
      spellsIndex =>
      have behindMagnitude : NoPeriod (letter :: index ++ rest) := by
        intro same
        cases same
        rcases isLetter with same | same <;> cases same
      have behindSign : NoPeriod (magnitude ++ (letter :: index ++ rest)) := by
        generalize term.magnitude = value at spellsMagnitude
        cases spellsMagnitude with
        | number spells =>
            exact noPeriod_of_spellsNumber spells _
        | omitted =>
            exact behindMagnitude
      rw [List.append_assoc, List.append_assoc]
      generalize term.sign = written at spellsSign
      cases spellsSign with
      | omitted isLeading =>
          exact behindSign
      | _ =>
          intro same
          cases same

theorem noPeriod_terms
    {leading : Bool}
    {expression : Expression}
    {text : List Char}
    (spells : SpellsTerms leading expression.terms text)
    (rest : List Char) :
    NoPeriod (text ++ rest) := by
  have nonempty := expression.nonempty
  generalize expression.terms = terms at spells nonempty
  cases spells with
  | nil =>
      exact absurd rfl nonempty
  | cons spellsHead spellsRest =>
      rw [List.append_assoc]
      exact noPeriod_monomial spellsHead _

/-- A written objective is read as its tokens. -/
theorem reads_objective
    {direction : Direction}
    {objective : Expression}
    {text : List Char}
    (spells : SpellsObjective direction objective text) :
    Reads text [] (ObjectiveTokens direction objective) := by
  cases spells with
  | @parts keyword terms spellsKeyword spellsTerms =>
      have readsKeyword := reads_direction spellsKeyword (terms ++ [])
      refine readsKeyword.append (reads_terms spellsTerms noDigit_nil) ?_
      rintro _ tokens ⟨start, stop, rfl⟩ isTerms
      exact .parts rfl isTerms

theorem reads_constraint
    {constraint : Constraint}
    {text : List Char}
    (spells : SpellsConstraint constraint text) :
    Reads text [] (ConstraintTokens constraint) := by
  cases spells with
  | @parts terms bound spellsTerms spellsBound =>
      have noDigitSymbol : NoDigit (symbol constraint.relation ++ bound ++ []) := by
        rintro character same
        generalize constraint.relation = relation at same
        cases relation <;> cases same <;> rfl
      have readsSymbol := reads_relation constraint.relation (bound ++ [])
      have readsBound := reads_number spellsBound noDigit_nil
      have readsBehind :
          Reads (symbol constraint.relation ++ bound) [] fun tokens =>
            ∃ symbol bound, tokens = [symbol, bound] ∧
              symbol.kind = .relation constraint.relation ∧ bound.kind = .integer ∧
              Term.integerValue bound.text = .ok constraint.bound := by
        refine readsSymbol.append readsBound ?_
        rintro _ _ ⟨start, stop, rfl⟩ ⟨boundStart, boundStop, rfl⟩
        refine ⟨_, _, rfl, rfl, rfl, ?_⟩
        rw [Term.integerValue, String.toList_ofList,
          value?_of_spellsNumber spellsBound constraint.boundFits]
      rw [List.append_assoc]
      refine (reads_terms spellsTerms noDigitSymbol).append readsBehind ?_
      rintro tokens _ isTerms ⟨symbol, bound, rfl, kind, boundKind, reads⟩
      exact .parts isTerms kind boundKind reads

/-- The first constraint is read behind the keyword that introduces it. -/
theorem reads_first
    {keyword initializer text : List Char}
    {constraint : Constraint}
    (isInitializer : keyword ∈ initializers)
    (spellsInitializer : SpellsKeyword keyword initializer)
    (spells : SpellsConstraint constraint text) :
    Reads (initializer ++ text) [] fun tokens =>
      ∃ introduction rest, tokens = introduction :: rest ∧
        introduction.kind = .initializer ∧
        ConstraintTokens constraint rest := by
  have noPeriod : NoPeriod (text ++ []) := by
    cases spells with
    | parts spellsTerms spellsBound =>
        rw [List.append_assoc, List.append_assoc]
        exact noPeriod_terms spellsTerms _
  refine (reads_initializer isInitializer spellsInitializer noPeriod).append
    (reads_constraint spells) ?_
  rintro _ tokens ⟨start, stop, rfl⟩ isConstraint
  exact ⟨_, tokens, rfl, rfl, isConstraint⟩

end LinearProgram.Grammar
