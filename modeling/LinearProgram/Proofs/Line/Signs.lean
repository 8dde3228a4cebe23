import LinearProgram.Line.Parts
import LinearProgram.Proofs.Line.Context

namespace LinearProgram

/-!
# What the balance of a line says of its terms

The balance of a line compares the number of its signs with the number of its
variables and does not ask which sign belongs to which variable. A sign belongs
to the variable behind it, with at most integers between them. The signs that
belong to no variable make up for variables that have no sign: a line is
balanced if it has as many such variables as such signs, or one more
(`signsBalance_iff`).
-/

/-- A sign stands in front of the integers at the end of some tokens. -/
def signedBehind (before : List Token) : Bool :=
  (before.rdropWhile Token.isInteger).getLast?.any fun token => token.kind.isSign

/-- A variable stands behind the integers at the head of some tokens. -/
def headsTerm (tokens : List Token) : Bool :=
  (tokens.dropWhile Token.isInteger).head?.any fun token => token.kind == .variable

/-- The number of variables without a sign, given the tokens in front. -/
def unsignedFrom (before : List Token) : List Token → Nat
  | [] => 0
  | token :: rest =>
      (if token.kind = .variable ∧ signedBehind before = false then 1 else 0) +
        unsignedFrom (before ++ [token]) rest

/-- The number of variables without a sign. -/
def unsignedVariables (tokens : List Token) : Nat :=
  unsignedFrom [] tokens

/-- The number of signs that belong to no variable. -/
def idleSigns : List Token → Nat
  | [] => 0
  | token :: rest =>
      (if token.kind.isSign ∧ headsTerm rest = false then 1 else 0) + idleSigns rest

/-- The tokens in front of the first variable. -/
def leadingTokens (tokens : List Token) : List Token :=
  tokens.takeWhile fun token => token.kind != .variable

/-- Some tokens end in a sign and integers behind it. -/
def EndsInSign (before : List Token) : Prop :=
  ∃ earlier sign integers, before = earlier ++ sign :: integers ∧ sign.kind.isSign ∧
    ∀ token ∈ integers, token.kind = .integer

/-- Every variable but the first has a sign. -/
def SignsLaterVariables (tokens : List Token) : Prop :=
  ∀ before token behind, tokens = before ++ token :: behind → token.kind = .variable →
    (∃ earlier ∈ before, earlier.kind = .variable) → EndsInSign before

/-- The sign in front of an integer is in front of what follows the integer. -/
theorem signedBehind_integer
    {before : List Token}
    {token : Token}
    (integer : token.kind = .integer) :
    signedBehind (before ++ [token]) = signedBehind before :=
  Term.any_behind_integer _ integer

/-- What follows any other token has a sign only if the token is one. -/
theorem signedBehind_other
    {before : List Token}
    {token : Token}
    (noInteger : token.kind ≠ .integer) :
    signedBehind (before ++ [token]) = token.kind.isSign :=
  Term.any_behind_other _ noInteger

/-- The scan finds the sign that stands in front of the integers at the end. -/
theorem signedBehind_iff
    {before : List Token} :
    signedBehind before ↔ EndsInSign before := by
  constructor
  · intro signed
    obtain ⟨sign, isLast, isSign⟩ := (Option.any_eq_true _ _).mp signed
    obtain ⟨earlier, split⟩ := List.getLast?_eq_some_iff.mp isLast
    refine ⟨earlier, sign, before.rtakeWhile Token.isInteger, ?_, isSign, ?_⟩
    · rw [← List.singleton_append, ← List.append_assoc, ← split,
        List.rdropWhile_append_rtakeWhile]
    · intro token member
      have isInteger : token.isInteger := List.mem_rtakeWhile_imp member
      exact beq_iff_eq.mp isInteger
  · rintro ⟨earlier, sign, integers, rfl, isSign, allIntegers⟩
    induction integers using List.reverseRecOn with
    | nil =>
        have noInteger : sign.kind ≠ .integer := by
          intro integer
          rw [integer] at isSign
          cases isSign
        rwa [signedBehind_other noInteger]
    | append_singleton integers token inductionHypothesis =>
        rw [List.forall_mem_append, List.forall_mem_singleton] at allIntegers
        rw [← List.cons_append, ← List.append_assoc, signedBehind_integer allIntegers.2]
        exact inductionHypothesis allIntegers.1

theorem headsTerm_integer
    {token : Token}
    (integer : token.kind = .integer)
    (rest : List Token) :
    headsTerm (token :: rest) = headsTerm rest := by
  rw [headsTerm, List.dropWhile_cons_of_pos (by simp [Token.isInteger, integer])]
  rfl

theorem headsTerm_other
    {token : Token}
    (noInteger : token.kind ≠ .integer)
    (rest : List Token) :
    headsTerm (token :: rest) = (token.kind == .variable) := by
  rw [headsTerm, List.dropWhile_cons_of_neg (by simpa [Token.isInteger] using noInteger)]
  rfl

theorem variableCount_cons (token : Token) (rest : List Token) :
    variableCount (token :: rest) =
      variableCount rest + if token.kind = .variable then 1 else 0 := by
  simp [variableCount, List.countP_cons]

theorem signCount_cons (token : Token) (rest : List Token) :
    signCount (token :: rest) = signCount rest + if token.kind.isSign then 1 else 0 := by
  simp [signCount, List.countP_cons]

/--
The variables without a sign against the signs without a variable. A sign that
ends the tokens in front belongs to the variable that the tokens start with.
-/
theorem variableCount_add_idleSigns (before tokens : List Token) :
    variableCount tokens + idleSigns tokens =
      signCount tokens + unsignedFrom before tokens +
        if signedBehind before ∧ headsTerm tokens then 1 else 0 := by
  induction tokens generalizing before with
  | nil =>
      simp [variableCount, idleSigns, signCount, unsignedFrom, headsTerm]
  | cons token rest inductionHypothesis =>
      have behind := inductionHypothesis (before ++ [token])
      rw [variableCount_cons, signCount_cons, idleSigns, unsignedFrom]
      by_cases integer : token.kind = .integer
      · -- The sign in front of an integer is in front of what follows the integer, too.
        rw [signedBehind_integer integer] at behind
        rw [headsTerm_integer integer, integer]
        simpa [TokenKind.isSign] using behind
      · rw [signedBehind_other integer] at behind
        rw [headsTerm_other integer]
        cases kind : token.kind with
        | sign sign =>
            -- The sign is idle unless the rest starts with its variable.
            rw [kind] at behind
            simp only [TokenKind.isSign] at behind ⊢
            grind
        | «variable» =>
            -- The variable takes the sign in front of it, if there is one.
            rw [kind] at behind
            simp only [TokenKind.isSign] at behind ⊢
            grind
        | _ =>
            rw [kind] at behind
            simpa [TokenKind.isSign] using behind

/-- A balanced line has a variable without a sign for each idle sign, and at most one more. -/
theorem signsBalance_iff
    {tokens : List Token} :
    signsBalance tokens ↔
      idleSigns tokens ≤ unsignedVariables tokens ∧
        unsignedVariables tokens ≤ idleSigns tokens + 1 := by
  have counts := variableCount_add_idleSigns [] tokens
  have noSign : signedBehind [] = false :=
    rfl
  rw [noSign] at counts
  simp only [Bool.false_eq_true, false_and, if_false] at counts
  rw [signsBalance, Bool.and_eq_true, decide_eq_true_eq, decide_eq_true_eq, unsignedVariables]
  omega

/-- Two variables without a sign, one of which makes up for the sign at the end. -/
example :
    idleSigns (tokenize "max 3x1 x2 +") = 1 ∧ unsignedVariables (tokenize "max 3x1 x2 +") = 2 ∧
      signsBalance (tokenize "max 3x1 x2 +") := by
  decide

/-- No variable is counted if each has a sign. -/
theorem unsignedFrom_eq_zero_iff
    {before tokens : List Token} :
    unsignedFrom before tokens = 0 ↔
      ∀ first token behind, tokens = first ++ token :: behind → token.kind = .variable →
        signedBehind (before ++ first) := by
  induction tokens generalizing before with
  | nil =>
      simp [unsignedFrom]
  | cons token rest inductionHypothesis =>
      rw [unsignedFrom, Nat.add_eq_zero_iff, inductionHypothesis]
      constructor
      · rintro ⟨atHead, later⟩ first found behind split isVariable
        cases first with
        | nil =>
            obtain ⟨rfl, rfl⟩ := List.cons.inj split
            simpa [isVariable] using atHead
        | cons head middle =>
            obtain ⟨rfl, rfl⟩ := List.cons.inj split
            simpa using later middle found behind rfl isVariable
      · intro allSigned
        constructor
        · rw [if_neg]
          rintro ⟨isVariable, unsigned⟩
          have signed := allSigned [] token rest rfl isVariable
          rw [List.append_nil, unsigned] at signed
          cases signed
        · intro first found behind split isVariable
          have signed := allSigned (token :: first) found behind (by rw [split]; rfl) isVariable
          simpa using signed

/-- Variables without a sign are counted part by part, each in its context. -/
theorem unsignedFrom_append (before first rest : List Token) :
    unsignedFrom before (first ++ rest) =
      unsignedFrom before first + unsignedFrom (before ++ first) rest := by
  induction first generalizing before with
  | nil =>
      simp [unsignedFrom]
  | cons token others inductionHypothesis =>
      rw [List.cons_append, unsignedFrom, unsignedFrom, inductionHypothesis]
      simp [Nat.add_assoc]

theorem leadingTokens_noVariable
    {tokens : List Token} :
    ∀ token ∈ leadingTokens tokens, token.kind ≠ .variable := by
  intro token member
  have leads := List.mem_takeWhile_imp member
  simpa using leads

/-- Tokens without a variable, or those in front of the first one and those behind it. -/
theorem leadingTokens_cases (tokens : List Token) :
    (∀ token ∈ tokens, token.kind ≠ .variable) ∨
      ∃ first others, tokens = leadingTokens tokens ++ first :: others ∧
        first.kind = .variable := by
  induction tokens with
  | nil =>
      exact .inl (by simp)
  | cons token rest inductionHypothesis =>
      by_cases isVariable : token.kind = .variable
      · exact .inr ⟨token, rest, by simp [leadingTokens, isVariable], isVariable⟩
      · have leads : leadingTokens (token :: rest) = token :: leadingTokens rest := by
          simp [leadingTokens, isVariable]
        rcases inductionHypothesis with noVariable | ⟨first, others, split, firstVariable⟩
        · exact .inl (List.forall_mem_cons.mpr ⟨isVariable, noVariable⟩)
        · refine .inr ⟨first, others, ?_, firstVariable⟩
          rw [leads, List.cons_append, ← split]

theorem unsignedFrom_of_noVariable
    {before tokens : List Token}
    (noVariable : ∀ token ∈ tokens, token.kind ≠ .variable) :
    unsignedFrom before tokens = 0 := by
  rw [unsignedFrom_eq_zero_iff]
  intro first token behind split isVariable
  exact absurd isVariable (noVariable token (by simp [split]))

/-- A later variable stands behind the first one. -/
theorem eq_append_of_laterVariable
    {leading others before behind : List Token}
    {first token : Token}
    (noVariable : ∀ token ∈ leading, token.kind ≠ .variable)
    (split : leading ++ first :: others = before ++ token :: behind)
    (later : ∃ earlier ∈ before, earlier.kind = .variable) :
    ∃ middle, before = leading ++ first :: middle ∧ others = middle ++ token :: behind := by
  obtain ⟨earlier, member, isVariable⟩ := later
  rcases List.append_eq_append_iff.mp split with
    ⟨passed, rfl, rest⟩ | ⟨passed, rfl, rest⟩
  · cases passed with
    | nil =>
        rw [List.append_nil] at member
        exact absurd isVariable (noVariable earlier member)
    | cons head middle =>
        obtain ⟨rfl, rfl⟩ := List.cons.inj rest
        exact ⟨middle, rfl, rfl⟩
  · exact absurd isVariable (noVariable earlier (List.mem_append_left _ member))

/--
Every variable but the first has a sign just if no variable is without one, or
none but the first.
-/
theorem signsLaterVariables_iff
    {tokens : List Token} :
    SignsLaterVariables tokens ↔
      unsignedVariables tokens ≤ if signedBehind (leadingTokens tokens) then 0 else 1 := by
  rcases leadingTokens_cases tokens with noVariable | ⟨first, others, split, isVariable⟩
  · rw [unsignedVariables, unsignedFrom_of_noVariable noVariable]
    refine iff_of_true ?_ (Nat.zero_le _)
    intro before token behind split isVariable
    exact absurd isVariable (noVariable token (by simp [split]))
  · have noneLeads : ∀ token ∈ leadingTokens tokens, token.kind ≠ .variable :=
      leadingTokens_noVariable
    generalize leadingTokens tokens = leading at split noneLeads ⊢
    subst split
    have count : unsignedVariables (leading ++ first :: others) =
        (if signedBehind leading then 0 else 1) + unsignedFrom (leading ++ [first]) others := by
      rw [unsignedVariables, unsignedFrom_append, unsignedFrom_of_noVariable noneLeads,
        List.nil_append, unsignedFrom]
      cases signedBehind leading <;> simp [isVariable]
    have othersSigned : SignsLaterVariables (leading ++ first :: others) ↔
        unsignedFrom (leading ++ [first]) others = 0 := by
      rw [unsignedFrom_eq_zero_iff]
      constructor
      · intro signed middle token behind split tokenVariable
        rw [signedBehind_iff]
        refine signed _ token behind ?_ tokenVariable ⟨first, by simp, isVariable⟩
        simp [split]
      · intro signed before token behind split tokenVariable later
        obtain ⟨middle, rfl, rfl⟩ := eq_append_of_laterVariable noneLeads split later
        rw [← signedBehind_iff]
        simpa using signed middle token behind rfl tokenVariable
    rw [othersSigned, count]
    omega

end LinearProgram
