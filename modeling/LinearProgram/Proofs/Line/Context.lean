import LinearProgram.Proofs.Line.Entries
import Mathlib.Data.List.DropRight

namespace LinearProgram

/-!
# What fills a row, told from the context of each variable

Terms are collected with a sign and a magnitude kept from token to token. What
is kept can be told from the tokens in front of a variable: its magnitude is the
integer right in front of it, and its sign is in front of all integers that
stand there in a row (`Term.collect_cons_inContext`). So a row that has been
filled holds the last value given for each position, and a variable that cannot
be entered leaves what the tokens in front of it have filled in
(`fillCoefficients_inContext`).
-/

def Token.isInteger (token : Token) : Bool :=
  token.kind == .integer

namespace Term

/-- A minus stands in front of the integers at the end of some tokens. -/
def negatedBehind (before : List Token) : Bool :=
  (before.rdropWhile Token.isInteger).getLast?.any fun token => token.kind == .sign .minus

/-- The last of the integers at the end of some tokens. -/
def magnitudeBehind (before : List Token) : Option String :=
  (before.rtakeWhile Token.isInteger).getLast?.map Token.text

/-- The term of a variable behind some tokens. -/
def inContext (before : List Token) (token : Token) : Term :=
  ⟨negatedBehind before, magnitudeBehind before, token.text⟩

/-- The number that a term stands for, with its sign. -/
inductive Denotes (term : Term) : Int → Prop where
  | bare
      (omitted : term.magnitude = none) :
      Denotes term (if term.negated then -1 else 1)
  | written
      {text : String}
      {magnitude : Int}
      (given : term.magnitude = some text)
      (reads : Numeral.value? text.toList = some magnitude) :
      Denotes term (if term.negated then -magnitude else magnitude)

/-- A term that can be entered at an index into a row of the given width. -/
structure Fits (width : Nat) (term : Term) (index : Nat) (value : Int) : Prop where
  denotes : term.Denotes value
  indexed : variableIndex term.variableText = .ok index
  positive : 1 ≤ index
  within : index ≤ width

/-- Why a term cannot be entered into a row: the first fault in it. -/
inductive Misfit (width : Nat) (term : Term) : Failure → Prop where
  | magnitude
      {text : String}
      (given : term.magnitude = some text)
      (unreadable : Numeral.value? text.toList = none) :
      Misfit width term (.invalidNumber text)
  | index
      {value : Int}
      (denotes : term.Denotes value)
      (unreadable : ∀ index, variableIndex term.variableText ≠ .ok index) :
      Misfit width term (.invalidNumber term.variableText)
  | range
      {value : Int}
      {index : Nat}
      (denotes : term.Denotes value)
      (found : variableIndex term.variableText = .ok index)
      (outside : ¬ (1 ≤ index ∧ index ≤ width)) :
      Misfit width term (.variableOutOfRange index width)

section Registers

variable {before : List Token} {token : Token}

/-- An integer leaves the token in front of the integers where it is. -/
theorem any_behind_integer
    (holds : Token → Bool)
    (integer : token.kind = .integer) :
    ((before ++ [token]).rdropWhile Token.isInteger).getLast?.any holds =
      (before.rdropWhile Token.isInteger).getLast?.any holds := by
  rw [List.rdropWhile_concat_pos _ _ _ (by simp [Token.isInteger, integer])]

/-- Any other token is the one in front of the integers that follow. -/
theorem any_behind_other
    (holds : Token → Bool)
    (noInteger : token.kind ≠ .integer) :
    ((before ++ [token]).rdropWhile Token.isInteger).getLast?.any holds = holds token := by
  rw [List.rdropWhile_concat_neg _ _ _ (by simpa [Token.isInteger] using noInteger)]
  simp

theorem negatedBehind_integer
    (integer : token.kind = .integer) :
    negatedBehind (before ++ [token]) = negatedBehind before :=
  any_behind_integer _ integer

theorem negatedBehind_other
    (noInteger : token.kind ≠ .integer) :
    negatedBehind (before ++ [token]) = (token.kind == .sign .minus) :=
  any_behind_other _ noInteger

theorem magnitudeBehind_integer
    (integer : token.kind = .integer) :
    magnitudeBehind (before ++ [token]) = some token.text := by
  rw [magnitudeBehind,
    List.rtakeWhile_concat_pos _ _ _ (by simp [Token.isInteger, integer])]
  simp

/-- A magnitude has to stand right in front of its variable. -/
theorem magnitudeBehind_other
    (noInteger : token.kind ≠ .integer) :
    magnitudeBehind (before ++ [token]) = none := by
  rw [magnitudeBehind,
    List.rtakeWhile_concat_neg _ _ _ (by simpa [Token.isInteger] using noInteger)]
  rfl

end Registers

/--
What is kept behind some tokens is what stands there, so one more token adds the
term that it makes in their context.
-/
theorem collect_cons_inContext
    (before : List Token)
    (token : Token)
    (rest : List Token) :
    collect (negatedBehind before) (magnitudeBehind before) (token :: rest) =
      (if token.kind = .variable then [inContext before token] else []) ++
        collect (negatedBehind (before ++ [token])) (magnitudeBehind (before ++ [token]))
          rest := by
  rw [collect]
  split
  · next sign kind =>
      have noInteger : token.kind ≠ .integer := by
        simp [kind]
      rw [negatedBehind_other noInteger, magnitudeBehind_other noInteger, kind]
      cases sign <;> rfl
  · next kind =>
      rw [negatedBehind_integer kind, magnitudeBehind_integer kind, kind]
      rfl
  · next kind =>
      have noInteger : token.kind ≠ .integer := by
        simp [kind]
      rw [negatedBehind_other noInteger, magnitudeBehind_other noInteger, kind]
      rfl
  · next noSign noInteger noVariable =>
      have noMinus : (token.kind == .sign .minus) = false :=
        beq_eq_false_iff_ne.mpr (noSign .minus)
      rw [negatedBehind_other noInteger, magnitudeBehind_other noInteger, noMinus,
        if_neg noVariable, List.nil_append]

/-- The terms of tokens are those of the first of them and those that the others make there. -/
theorem collect_append
    (before first rest : List Token) :
    collect (negatedBehind before) (magnitudeBehind before) (first ++ rest) =
      collect (negatedBehind before) (magnitudeBehind before) first ++
        collect (negatedBehind (before ++ first)) (magnitudeBehind (before ++ first)) rest := by
  induction first generalizing before with
  | nil =>
      simp [collect]
  | cons token others inductionHypothesis =>
      rw [List.cons_append, collect_cons_inContext, collect_cons_inContext,
        inductionHypothesis]
      simp

/-- The terms behind some tokens are collected in their context. -/
theorem ofTokens_append (before rest : List Token) :
    ofTokens (before ++ rest) =
      ofTokens before ++ collect (negatedBehind before) (magnitudeBehind before) rest :=
  collect_append [] before rest

/-- A variable at the end makes one more term. -/
theorem ofTokens_concat (before : List Token) (token : Token) :
    ofTokens (before ++ [token]) =
      ofTokens before ++ if token.kind = .variable then [inContext before token] else [] := by
  rw [ofTokens_append, collect_cons_inContext]
  simp [collect]

section Entering

variable {width : Nat} {term : Term} {row : List Int}

theorem integerValue_of_value?
    {text : String}
    {value : Int}
    (reads : Numeral.value? text.toList = some value) :
    integerValue text = .ok value := by
  rw [integerValue, reads]

/-- The coefficient of a term is the number that it stands for. -/
theorem Denotes.coefficient_eq
    {value : Int}
    (denotes : term.Denotes value) :
    term.coefficient = .ok value := by
  cases denotes with
  | bare omitted =>
      rw [coefficient, omitted]
      rfl
  | written given reads =>
      rw [coefficient, given]
      simp only [integerValue_of_value? reads]
      rfl

/-- A term has a value unless the text of its magnitude is no value. -/
theorem denotes_or_unreadable (term : Term) :
    (∃ value, term.Denotes value) ∨
      ∃ text, term.magnitude = some text ∧ Numeral.value? text.toList = none := by
  cases given : term.magnitude with
  | none =>
      exact .inl ⟨_, .bare given⟩
  | some text =>
      cases reads : Numeral.value? text.toList with
      | none =>
          exact .inr ⟨text, rfl, reads⟩
      | some value =>
          exact .inl ⟨_, .written given reads⟩

/-- A term either fits into a row or has a first fault. -/
theorem fits_or_misfit (width : Nat) (term : Term) :
    (∃ index value, term.Fits width index value) ∨ ∃ failure, term.Misfit width failure := by
  rcases term.denotes_or_unreadable with ⟨value, denotes⟩ | ⟨text, given, unreadable⟩
  · cases found : variableIndex term.variableText with
    | error failure =>
        exact .inr ⟨_, .index denotes (by simp [found])⟩
    | ok index =>
        by_cases inside : 1 ≤ index ∧ index ≤ width
        · exact .inl ⟨index, value, denotes, found, inside.1, inside.2⟩
        · exact .inr ⟨_, .range denotes found inside⟩
  · exact .inr ⟨_, .magnitude given unreadable⟩

/-- A term that fits is entered at its index. -/
theorem Fits.enter_eq
    {index : Nat}
    {value : Int}
    (fits : term.Fits row.length index value) :
    term.enter row = .ok (row.set (index - 1) value) :=
  enter_eq_ok_iff.mpr
    ⟨value, index, fits.denotes.coefficient_eq, fits.indexed, fits.positive, fits.within, rfl⟩

theorem variableIndex_eq_error
    {text : String}
    (unreadable : ∀ index, variableIndex text ≠ .ok index) :
    variableIndex text = .error (.invalidNumber text) := by
  unfold variableIndex at unreadable ⊢
  split
  · rfl
  · split
    · next index found =>
        simp_all
    · rfl

/-- A term that does not fit fails for its first fault. -/
theorem Misfit.enter_eq
    {failure : Failure}
    (misfit : term.Misfit row.length failure) :
    term.enter row = .error failure := by
  cases misfit with
  | magnitude given unreadable =>
      rw [enter, coefficient, given]
      simp only [integerValue, unreadable]
      rfl
  | index denotes unreadable =>
      rw [enter, denotes.coefficient_eq, variableIndex_eq_error unreadable]
      rfl
  | @range value index denotes found outside =>
      rw [enter, denotes.coefficient_eq, found]
      simp only [bind, Except.bind, if_neg outside]
      rfl

end Entering

end Term

namespace FilledRow

variable {row filled : List Int}

/-- Terms are entered behind others that have been entered. -/
theorem enterAll_append_of_complete
    {first : List Term}
    (complete : enterAll row first = ⟨filled, none⟩)
    (rest : List Term) :
    enterAll row (first ++ rest) = enterAll filled rest := by
  induction first generalizing row with
  | nil =>
      cases complete
      rfl
  | cons term others inductionHypothesis =>
      rw [enterAll] at complete
      rw [List.cons_append, enterAll]
      split at complete
      · exact inductionHypothesis complete
      · cases complete

/-- Nothing is entered behind a term that has failed. -/
theorem enterAll_append_of_stopped
    {first : List Term}
    {failure : Failure}
    (stopped : enterAll row first = ⟨filled, some failure⟩)
    (rest : List Term) :
    enterAll row (first ++ rest) = ⟨filled, some failure⟩ := by
  induction first generalizing row with
  | nil =>
      cases stopped
  | cons term others inductionHypothesis =>
      rw [enterAll] at stopped
      rw [List.cons_append, enterAll]
      split at stopped
      · exact inductionHypothesis stopped
      · exact stopped

end FilledRow

section Filling

variable {row filled : List Int} {before : List Token} {token : Token}

/-- A token that is no variable enters nothing. -/
theorem fillCoefficients_concat_other
    (complete : fillCoefficients before row = ⟨filled, none⟩)
    (noVariable : token.kind ≠ .variable) :
    fillCoefficients (before ++ [token]) row = ⟨filled, none⟩ := by
  rw [fillCoefficients, Term.ofTokens_concat, if_neg noVariable, List.append_nil]
  exact complete

/-- A variable enters its term behind what the tokens in front of it have filled in. -/
theorem fillCoefficients_concat_variable
    (complete : fillCoefficients before row = ⟨filled, none⟩)
    (isVariable : token.kind = .variable) :
    fillCoefficients (before ++ [token]) row =
      .enterAll filled [Term.inContext before token] := by
  rw [fillCoefficients, Term.ofTokens_concat, if_pos isVariable]
  exact FilledRow.enterAll_append_of_complete complete _

/-- Nothing behind a failure changes it. -/
theorem fillCoefficients_append_of_stopped
    {failure : Failure}
    (stopped : fillCoefficients before row = ⟨filled, some failure⟩)
    (rest : List Token) :
    fillCoefficients (before ++ rest) row = ⟨filled, some failure⟩ := by
  rw [fillCoefficients, Term.ofTokens_append]
  exact FilledRow.enterAll_append_of_stopped stopped _

end Filling

/-- Every variable among some tokens fits into a row of the given width. -/
def AllFit (width : Nat) (tokens : List Token) : Prop :=
  ∀ before token behind, tokens = before ++ token :: behind → token.kind = .variable →
    ∃ index value, (Term.inContext before token).Fits width index value

/-- What a row holds at a position behind some tokens. -/
inductive HoldsBehind (tokens : List Token) (row : List Int) (position : Nat) : Int → Prop where
  /-- The value of the last variable that has the position. -/
  | last
      {before : List Token}
      {token : Token}
      {behind : List Token}
      {value : Int}
      (split : tokens = before ++ token :: behind)
      (isVariable : token.kind = .variable)
      (index : variableIndex token.text = .ok (position + 1))
      (denotes : (Term.inContext before token).Denotes value)
      (noLater : ∀ later ∈ behind, later.kind = .variable →
        variableIndex later.text ≠ .ok (position + 1)) :
      HoldsBehind tokens row position value
  /-- What it held before, if no variable has the position. -/
  | initial
      {value : Int}
      (noVariable : ∀ token ∈ tokens, token.kind = .variable →
        variableIndex token.text ≠ .ok (position + 1))
      (held : row[position]? = some value) :
      HoldsBehind tokens row position value

section Behind

variable {width : Nat} {tokens : List Token} {token : Token} {row : List Int}

/-- The first tokens have the same context whatever follows. -/
theorem AllFit.of_append
    {rest : List Token}
    (allFit : AllFit width (tokens ++ rest)) :
    AllFit width tokens := by
  intro before token behind split
  exact allFit before token (behind ++ rest) (by simp [split])

/-- One more token fits if it is no variable or a variable that fits. -/
theorem AllFit.concat
    (allFit : AllFit width tokens)
    (fits : token.kind = .variable →
      ∃ index value, (Term.inContext tokens token).Fits width index value) :
    AllFit width (tokens ++ [token]) := by
  intro before other behind split isVariable
  rcases List.eq_nil_or_concat behind with rfl | ⟨middle, last, rfl⟩
  · obtain ⟨rfl, same⟩ := List.append_inj' split rfl
    cases same
    exact fits isVariable
  · rw [List.concat_eq_append, ← List.cons_append, ← List.append_assoc] at split
    obtain ⟨rfl, _⟩ := List.append_inj' split rfl
    exact allFit before other middle rfl isVariable

/-- Unless all variables fit there is a first one that does not. -/
theorem allFit_or_first_misfit (width : Nat) (tokens : List Token) :
    AllFit width tokens ∨
      ∃ before token behind failure, tokens = before ++ token :: behind ∧
        token.kind = .variable ∧ AllFit width before ∧
        (Term.inContext before token).Misfit width failure := by
  induction tokens using List.reverseRecOn with
  | nil =>
      exact .inl fun before token behind split => by simp at split
  | append_singleton tokens token inductionHypothesis =>
      rcases inductionHypothesis with
        allFit | ⟨before, first, behind, failure, rfl, isVariable, allFit, misfit⟩
      · by_cases isVariable : token.kind = .variable
        · rcases (Term.inContext tokens token).fits_or_misfit width with
            fits | ⟨failure, misfit⟩
          · exact .inl (allFit.concat fun _ => fits)
          · exact .inr ⟨tokens, token, [], failure, rfl, isVariable, allFit, misfit⟩
        · exact .inl (allFit.concat fun kind => absurd kind isVariable)
      · exact .inr ⟨before, first, behind ++ [token], failure, by simp, isVariable, allFit,
          misfit⟩

/-- A position holds what it did if the token that is added has another one. -/
theorem HoldsBehind.concat
    {position : Nat}
    {value : Int}
    (holds : HoldsBehind tokens row position value)
    (elsewhere : token.kind = .variable → variableIndex token.text ≠ .ok (position + 1)) :
    HoldsBehind (tokens ++ [token]) row position value := by
  cases holds with
  | @last before last behind _ split isVariable index denotes noLater =>
      have extended : tokens ++ [token] = before ++ last :: (behind ++ [token]) := by
        simp [split]
      refine .last extended isVariable index denotes ?_
      rw [List.forall_mem_append, List.forall_mem_singleton]
      exact ⟨noLater, elsewhere⟩
  | initial noVariable held =>
      refine .initial ?_ held
      rw [List.forall_mem_append, List.forall_mem_singleton]
      exact ⟨noVariable, elsewhere⟩

/-- A row into which all variables fit is filled, and holds the last value at each position. -/
theorem AllFit.fillCoefficients_eq
    (allFit : AllFit row.length tokens) :
    ∃ filled, fillCoefficients tokens row = ⟨filled, none⟩ ∧ filled.length = row.length ∧
      ∀ position value, filled[position]? = some value →
        HoldsBehind tokens row position value := by
  induction tokens using List.reverseRecOn with
  | nil =>
      exact ⟨row, rfl, rfl, fun position value held => .initial (by simp) held⟩
  | append_singleton tokens token inductionHypothesis =>
      obtain ⟨filled, complete, length, holds⟩ := inductionHypothesis allFit.of_append
      by_cases isVariable : token.kind = .variable
      · obtain ⟨index, value, fits⟩ := allFit tokens token [] rfl isVariable
        rw [← length] at fits
        refine ⟨filled.set (index - 1) value, ?_, by simpa using length, ?_⟩
        · rw [fillCoefficients_concat_variable complete isVariable, FilledRow.enterAll,
            fits.enter_eq]
          rfl
        · intro position entry held
          have positive := fits.positive
          by_cases same : index = position + 1
          · subst same
            have within := fits.within
            rw [Nat.add_sub_cancel, List.getElem?_set_self (by omega)] at held
            cases held
            exact .last rfl isVariable fits.indexed fits.denotes (by simp)
          · rw [List.getElem?_set_ne (by omega)] at held
            refine (holds position entry held).concat fun _ isIndex => same ?_
            exact Except.ok.inj (fits.indexed.symm.trans isIndex)
      · refine ⟨filled, fillCoefficients_concat_other complete isVariable, length, ?_⟩
        intro position value held
        exact (holds position value held).concat fun kind => absurd kind isVariable

end Behind

/--
What fills a row can be told from the context of each variable. If all variables
fit, the row holds the last value for each position. Otherwise the first that
does not fit is to blame, and the row is that of the tokens in front of it.
-/
theorem fillCoefficients_inContext (tokens : List Token) (row : List Int) :
    (AllFit row.length tokens →
      ∃ filled, fillCoefficients tokens row = ⟨filled, none⟩ ∧ filled.length = row.length ∧
        ∀ position value, filled[position]? = some value →
          HoldsBehind tokens row position value) ∧
    (¬ AllFit row.length tokens →
      ∃ before token behind failure filled, tokens = before ++ token :: behind ∧
        token.kind = .variable ∧ AllFit row.length before ∧
        (Term.inContext before token).Misfit row.length failure ∧
        fillCoefficients before row = ⟨filled, none⟩ ∧
        fillCoefficients tokens row = ⟨filled, some failure⟩) := by
  refine ⟨AllFit.fillCoefficients_eq, fun someMisfit => ?_⟩
  obtain ⟨before, token, behind, failure, rfl, isVariable, allFit, misfit⟩ :=
    (allFit_or_first_misfit row.length tokens).resolve_left someMisfit
  obtain ⟨filled, complete, length, _⟩ := allFit.fillCoefficients_eq
  have stopped :
      fillCoefficients (before ++ [token]) row = ⟨filled, some failure⟩ := by
    rw [← length] at misfit
    rw [fillCoefficients_concat_variable complete isVariable, FilledRow.enterAll,
      misfit.enter_eq]
  have whole := fillCoefficients_append_of_stopped stopped behind
  rw [List.append_assoc, List.singleton_append] at whole
  exact ⟨before, token, behind, failure, filled, rfl, isVariable, allFit, misfit, complete,
    whole⟩

/-- A minus in front of two integers, a later term for a variable, and a term without a place. -/
example :
    fillCoefficients (tokenize "x2 - 5 3x1 + 4x2 + x9 + x1") [7, 8, 6] =
      ⟨[-3, 4, 6], some (.variableOutOfRange 9 3)⟩ := by
  rfl

end LinearProgram
