import LinearProgram.Line.Parts
import LinearProgram.Proofs.Grammar.Reading
import LinearProgram.Proofs.Traversal

namespace LinearProgram.Grammar

/-!
# What the tokens of a line mean

The tokens of a line, whatever stands before and behind its terms, yield its
width, the balance of its signs and its row of coefficients. Of several terms
for one variable the last one is left in the row.
-/

/-- The tokens of a line with terms between other tokens. -/
inductive LineTokens (expression : Expression) : List Token → Prop where
  | parts
      {before tokens behind : List Token}
      (isBefore : ∀ token ∈ before,
        token.kind.isSign = false ∧ token.kind ≠ .integer ∧ token.kind ≠ .variable)
      (terms : TermsTokens true expression.terms tokens)
      (isBehind : ∀ token ∈ behind,
        token.kind.isSign = false ∧ token.kind ≠ .variable) :
      LineTokens expression (before ++ tokens ++ behind)

/-- The tokens of terms are signs, integers and variables. -/
theorem kind_of_mem_termsTokens
    {leading : Bool}
    {terms : List Monomial}
    {tokens : List Token}
    (isTerms : TermsTokens leading terms tokens)
    {token : Token}
    (member : token ∈ tokens) :
    token.kind.isSign ∨ token.kind = .integer ∨ token.kind = .variable := by
  induction isTerms with
  | nil =>
      cases member
  | cons head behind inductionHypothesis =>
      rcases List.mem_append.mp member with inHead | inRest
      · cases head with
        | parts sign magnitude kind reads =>
            rw [List.mem_append, List.mem_append, List.mem_singleton] at inHead
            rcases inHead with (inSign | inMagnitude) | rfl
            · cases sign with
              | written kind =>
                  rw [List.mem_singleton.mp inSign, kind]
                  exact .inl rfl
              | omitted isLeading isPlus =>
                  cases inSign
            · generalize Monomial.magnitude _ = value at magnitude
              cases magnitude with
              | written kind reads =>
                  rw [List.mem_singleton.mp inMagnitude]
                  exact .inr (.inl kind)
              | omitted =>
                  cases inMagnitude
            · exact .inr (.inr kind)
      · exact inductionHypothesis inRest

theorem variableCount_append (first second : List Token) :
    variableCount (first ++ second) = variableCount first + variableCount second :=
  List.countP_append

theorem signCount_append (first second : List Token) :
    signCount (first ++ second) = signCount first + signCount second :=
  List.countP_append

/-- A sign counts once, and may be left out in front of the first term. -/
theorem counts_signTokens
    {leading : Bool}
    {sign : Sign}
    {tokens : List Token}
    (isSign : SignTokens leading sign tokens) :
    variableCount tokens = 0 ∧ signCount tokens ≤ 1 ∧
      (leading = false → signCount tokens = 1) := by
  cases isSign with
  | written kind =>
      simp [variableCount, signCount, kind, TokenKind.isSign]
  | omitted isLeading isPlus =>
      simp [variableCount, signCount, isLeading]

/-- A magnitude counts neither as a sign nor as a variable. -/
theorem counts_magnitudeTokens
    {magnitude : Option Nat}
    {tokens : List Token}
    (isMagnitude : MagnitudeTokens magnitude tokens) :
    variableCount tokens = 0 ∧ signCount tokens = 0 := by
  cases isMagnitude with
  | written kind reads =>
      simp [variableCount, signCount, kind, TokenKind.isSign]
  | omitted =>
      exact ⟨rfl, rfl⟩

/-- A term has one variable, and a sign unless it is a leading one. -/
theorem counts_monomialTokens
    {leading : Bool}
    {term : Monomial}
    {tokens : List Token}
    (isMonomial : MonomialTokens leading term tokens) :
    variableCount tokens = 1 ∧ signCount tokens ≤ 1 ∧
      (leading = false → signCount tokens = 1) := by
  cases isMonomial with
  | @parts signs magnitudes letter sign magnitude kind reads =>
      obtain ⟨noVariable, signBound, oneSign⟩ := counts_signTokens sign
      obtain ⟨noVariableEither, noSign⟩ := counts_magnitudeTokens magnitude
      have letterVariable : variableCount [letter] = 1 := by
        simp [variableCount, kind]
      have letterSign : signCount [letter] = 0 := by
        simp [signCount, kind, TokenKind.isSign]
      rw [variableCount_append, variableCount_append, signCount_append,
        signCount_append, noVariable, noVariableEither, letterVariable, noSign,
        letterSign]
      exact ⟨rfl, signBound, oneSign⟩

/-- Each term has a variable, and each term but a leading one has a sign. -/
theorem counts_termsTokens
    {leading : Bool}
    {terms : List Monomial}
    {tokens : List Token}
    (isTerms : TermsTokens leading terms tokens) :
    variableCount tokens = terms.length ∧ signCount tokens ≤ terms.length ∧
      terms.length ≤ signCount tokens + 1 ∧
      (leading = false → signCount tokens = terms.length) := by
  induction isTerms with
  | nil =>
      exact ⟨rfl, Nat.le_refl 0, Nat.zero_le _, fun _ => rfl⟩
  | cons head behind inductionHypothesis =>
      obtain ⟨oneVariable, signBound, oneSign⟩ := counts_monomialTokens head
      obtain ⟨restVariables, _, _, restSigns⟩ := inductionHypothesis
      rw [variableCount_append, signCount_append, List.length_cons, oneVariable,
        restVariables, restSigns rfl]
      refine ⟨Nat.add_comm _ _, by omega, by omega, ?_⟩
      intro notLeading
      rw [oneSign notLeading, Nat.add_comm]

theorem signCount_eq_zero
    {tokens : List Token}
    (noSigns : ∀ token ∈ tokens, token.kind.isSign = false) :
    signCount tokens = 0 := by
  rw [signCount, List.countP_eq_zero]
  intro token member
  simp [noSigns token member]

theorem variableCount_eq_zero
    {tokens : List Token}
    (noVariables : ∀ token ∈ tokens, token.kind ≠ .variable) :
    variableCount tokens = 0 := by
  rw [variableCount, List.countP_eq_zero]
  intro token member
  simpa using noVariables token member

/-- Terms with their signs are in balance, whatever stands around them. -/
theorem signsBalance_lineTokens
    {expression : Expression}
    {tokens : List Token}
    (isLine : LineTokens expression tokens) :
    signsBalance tokens := by
  cases isLine with
  | @parts before tokens behind isBefore terms isBehind =>
      obtain ⟨termVariables, atMost, atLeast, _⟩ := counts_termsTokens terms
      have signs : signCount (before ++ tokens ++ behind) = signCount tokens := by
        rw [signCount_append, signCount_append,
          signCount_eq_zero fun token member => (isBefore token member).1,
          signCount_eq_zero fun token member => (isBehind token member).1,
          Nat.zero_add, Nat.add_zero]
      have lineVariables :
          variableCount (before ++ tokens ++ behind) = variableCount tokens := by
        rw [variableCount_append, variableCount_append,
          variableCount_eq_zero fun token member => (isBefore token member).2.2,
          variableCount_eq_zero fun token member => (isBehind token member).2,
          Nat.zero_add, Nat.add_zero]
      rw [signsBalance, signs, lineVariables, termVariables]
      simp [atMost, atLeast]

/-! The variables of a line are those of its terms, in order. -/

theorem variableTexts_append (first second : List Token) :
    variableTexts (first ++ second) =
      variableTexts first ++ variableTexts second := by
  simp [variableTexts]

theorem variableTexts_eq_nil
    {tokens : List Token}
    (noVariables : ∀ token ∈ tokens, token.kind ≠ .variable) :
    variableTexts tokens = [] := by
  rw [variableTexts, List.map_eq_nil_iff, List.filter_eq_nil_iff]
  intro token member
  simpa using noVariables token member

/-- A term has one variable, which is read as its index. -/
theorem variableTexts_monomialTokens
    {leading : Bool}
    {term : Monomial}
    {tokens : List Token}
    (isMonomial : MonomialTokens leading term tokens) :
    ∃ text, variableTexts tokens = [text] ∧
      variableIndex text = .ok term.index := by
  cases isMonomial with
  | @parts signs magnitudes letter sign magnitude kind reads =>
      have noSign : variableTexts signs = [] := by
        cases sign with
        | written kind =>
            simp [variableTexts, kind]
        | omitted isLeading isPlus =>
            rfl
      have noMagnitude : variableTexts magnitudes = [] := by
        generalize term.magnitude = value at magnitude
        cases magnitude with
        | written kind reads =>
            simp [variableTexts, kind]
        | omitted =>
            rfl
      refine ⟨letter.text, ?_, reads⟩
      rw [variableTexts_append, variableTexts_append, noSign, noMagnitude]
      simp [variableTexts, kind]

/-- The variables of terms are read as their indices, in order. -/
theorem variableTexts_termsTokens
    {leading : Bool}
    {terms : List Monomial}
    {tokens : List Token}
    (isTerms : TermsTokens leading terms tokens) :
    List.Forall₂ (fun text term => variableIndex text = .ok term.index)
      (variableTexts tokens) terms := by
  induction isTerms with
  | nil =>
      exact .nil
  | cons head behind inductionHypothesis =>
      obtain ⟨text, texts, reads⟩ := variableTexts_monomialTokens head
      rw [variableTexts_append, texts]
      exact .cons reads inductionHypothesis

/-- Lists that belong together have last elements that do. -/
theorem getLast_of_forall₂
    {related : α → β → Prop}
    {left : List α}
    {right : List β}
    (each : List.Forall₂ related left right)
    (nonempty : right ≠ []) :
    ∃ last, left.getLast? = some last ∧ related last (right.getLast nonempty) := by
  induction each with
  | nil =>
      exact absurd rfl nonempty
  | @cons head item left right isHead behind inductionHypothesis =>
      cases behind with
      | nil =>
          exact ⟨head, rfl, isHead⟩
      | cons next others =>
          obtain ⟨last, isLast, holds⟩ := inductionHypothesis (List.cons_ne_nil _ _)
          exact ⟨last, by rw [List.getLast?_cons_cons, isLast],
            by rwa [List.getLast_cons_cons]⟩

/-- The width of a line is the index of its last term. -/
theorem width_lineTokens
    {expression : Expression}
    {tokens : List Token}
    (isLine : LineTokens expression tokens) :
    ∃ set, VariableSet.ofTokens tokens = .ok set ∧
      set.width = expression.lastIndex := by
  cases isLine with
  | @parts before tokens behind isBefore terms isBehind =>
      have texts : variableTexts (before ++ tokens ++ behind) =
          variableTexts tokens := by
        rw [variableTexts_append, variableTexts_append,
          variableTexts_eq_nil fun token member => (isBefore token member).2.2,
          variableTexts_eq_nil fun token member => (isBehind token member).2,
          List.nil_append, List.append_nil]
      obtain ⟨last, isLast, reads⟩ :=
        getLast_of_forall₂ (variableTexts_termsTokens terms) expression.nonempty
      refine ⟨_, bind_eq_ok_iff.mpr ⟨expression.lastIndex, ?_, rfl⟩, rfl⟩
      rw [texts, lastIndex, isLast]
      exact reads

/-!
The terms of a line are collected in order, each with its sign and its
magnitude.
-/

/-- A collected term with the coefficient and the index of an abstract one. -/
def Means (collected : Term) (term : Monomial) : Prop :=
  collected.coefficient = .ok term.coefficient ∧
    variableIndex collected.variableText = .ok term.index

/-- What stands in front of the terms leaves nothing for them. -/
theorem collect_before
    {tokens : List Token}
    (others : ∀ token ∈ tokens,
      token.kind.isSign = false ∧ token.kind ≠ .integer ∧ token.kind ≠ .variable)
    (rest : List Token) :
    Term.collect false none (tokens ++ rest) = Term.collect false none rest := by
  induction tokens with
  | nil =>
      rfl
  | cons token behind inductionHypothesis =>
      rw [List.forall_mem_cons] at others
      obtain ⟨⟨noSign, noInteger, noVariable⟩, behindOthers⟩ := others
      rw [List.cons_append, Term.collect]
      split
      · next kind =>
          rw [kind] at noSign
          cases noSign
      · next kind =>
          exact absurd kind noInteger
      · next kind =>
          exact absurd kind noVariable
      · exact inductionHypothesis behindOthers

theorem collect_eq_nil
    {tokens : List Token}
    (noVariables : ∀ token ∈ tokens, token.kind ≠ .variable)
    (negated : Bool)
    (magnitude : Option String) :
    Term.collect negated magnitude tokens = [] := by
  induction tokens generalizing negated magnitude with
  | nil =>
      rfl
  | cons token behind inductionHypothesis =>
      rw [List.forall_mem_cons] at noVariables
      rw [Term.collect]
      split
      · exact inductionHypothesis noVariables.2 _ _
      · exact inductionHypothesis noVariables.2 _ _
      · next kind =>
          exact absurd kind noVariables.1
      · exact inductionHypothesis noVariables.2 _ _

/-- The magnitude of a term is kept until its variable is found. -/
theorem collect_magnitudeTokens
    {term : Monomial}
    {tokens : List Token}
    (isMagnitude : MagnitudeTokens term.magnitude tokens)
    (variableText : String) :
    ∃ text,
      (∀ rest, Term.collect (term.sign == .minus) none (tokens ++ rest) =
        Term.collect (term.sign == .minus) text rest) ∧
      Term.coefficient ⟨term.sign == .minus, text, variableText⟩ =
        .ok term.coefficient := by
  rw [Monomial.coefficient]
  generalize term.magnitude = magnitude at isMagnitude ⊢
  cases isMagnitude with
  | @written token value kind reads =>
      refine ⟨some token.text, ?_, ?_⟩
      · intro rest
        rw [List.singleton_append, Term.collect, kind]
      · apply bind_eq_ok_iff.mpr
        refine ⟨value, reads, ?_⟩
        cases term.sign <;> rfl
  | omitted =>
      refine ⟨none, fun rest => rfl, ?_⟩
      cases term.sign <;> rfl

/-- The tokens of a term are collected as one that means the same. -/
theorem collect_monomialTokens
    {leading : Bool}
    {term : Monomial}
    {tokens : List Token}
    (isMonomial : MonomialTokens leading term tokens)
    (rest : List Token) :
    ∃ collected, Means collected term ∧
      Term.collect false none (tokens ++ rest) =
        collected :: Term.collect false none rest := by
  cases isMonomial with
  | @parts signs magnitudes letter sign magnitude kind reads =>
      have behindSign : ∀ others,
          Term.collect false none (signs ++ others) =
            Term.collect (term.sign == .minus) none others := by
        intro others
        cases sign with
        | written kind =>
            rw [List.singleton_append, Term.collect, kind]
        | omitted isLeading isPlus =>
            rw [isPlus]
            rfl
      obtain ⟨text, behindMagnitude, value⟩ :
          ∃ text,
            (∀ others, Term.collect (term.sign == .minus) none
              (magnitudes ++ others) =
              Term.collect (term.sign == .minus) text others) ∧
            Term.coefficient ⟨term.sign == .minus, text, letter.text⟩ =
              .ok term.coefficient :=
        collect_magnitudeTokens magnitude letter.text
      refine ⟨⟨term.sign == .minus, text, letter.text⟩, ⟨value, reads⟩, ?_⟩
      rw [List.append_assoc, List.append_assoc, behindSign, behindMagnitude,
        List.singleton_append, Term.collect, kind]

/-- The tokens of terms are collected as terms that mean the same. -/
theorem collect_termsTokens
    {leading : Bool}
    {terms : List Monomial}
    {tokens : List Token}
    (isTerms : TermsTokens leading terms tokens)
    (rest : List Token) :
    ∃ collected, List.Forall₂ Means collected terms ∧
      Term.collect false none (tokens ++ rest) =
        collected ++ Term.collect false none rest := by
  induction isTerms with
  | nil =>
      exact ⟨[], .nil, rfl⟩
  | cons head behind inductionHypothesis =>
      obtain ⟨others, means, split⟩ := inductionHypothesis
      obtain ⟨collected, headMeans, headSplit⟩ := collect_monomialTokens head _
      refine ⟨collected :: others, .cons headMeans means, ?_⟩
      rw [List.append_assoc, headSplit, split]
      rfl

/-- The terms of a line are those that it has been written with. -/
theorem ofTokens_lineTokens
    {expression : Expression}
    {tokens : List Token}
    (isLine : LineTokens expression tokens) :
    List.Forall₂ Means (Term.ofTokens tokens) expression.terms := by
  cases isLine with
  | @parts before tokens behind isBefore terms isBehind =>
      obtain ⟨collected, means, split⟩ := collect_termsTokens terms behind
      rw [Term.ofTokens, List.append_assoc, collect_before isBefore, split,
        collect_eq_nil fun token member => (isBehind token member).2,
        List.append_nil]
      exact means

/-!
Entering the terms of a line one after the other leaves the last one for each
variable.
-/

/-- A row after terms have been entered in it. -/
def entered (row : List Int) (terms : List Monomial) : List Int :=
  terms.foldl (fun row term => row.set (term.index - 1) term.coefficient) row

theorem length_entered
    (row : List Int)
    (terms : List Monomial) :
    (entered row terms).length = row.length := by
  induction terms generalizing row with
  | nil =>
      rfl
  | cons term terms inductionHypothesis =>
      rw [entered, List.foldl_cons]
      exact (inductionHypothesis _).trans List.length_set

/-- Terms within the width are entered one after the other. -/
theorem enterAll_eq_entered
    {collected : List Term}
    {terms : List Monomial}
    (means : List.Forall₂ Means collected terms)
    (row : List Int)
    (inRange : ∀ term ∈ terms, term.index ≤ row.length) :
    FilledRow.enterAll row collected = ⟨entered row terms, none⟩ := by
  induction means generalizing row with
  | nil =>
      rfl
  | @cons term monomial others monomials meansHead meansRest inductionHypothesis =>
      rw [List.forall_mem_cons] at inRange
      have enters : term.enter row =
          .ok (row.set (monomial.index - 1) monomial.coefficient) := by
        apply bind_eq_ok_iff.mpr
        refine ⟨monomial.coefficient, meansHead.1, bind_eq_ok_iff.mpr ?_⟩
        refine ⟨monomial.index, meansHead.2, ?_⟩
        rw [if_pos ⟨monomial.indexPositive, inRange.1⟩]
        rfl
      rw [FilledRow.enterAll, enters]
      exact inductionHypothesis _ (by simpa using inRange.2)

/-- The last of the terms for a variable is left in the row. -/
theorem getElem_entered
    (row : List Int)
    (terms : List Monomial)
    {position : Nat}
    (inRow : position < row.length) :
    (entered row terms)[position]? =
      match terms.reverse.find? fun term => term.index == position + 1 with
      | some term => some term.coefficient
      | none => row[position]? := by
  induction terms generalizing row with
  | nil =>
      rfl
  | cons term terms inductionHypothesis =>
      have behind := inductionHypothesis (row.set (term.index - 1) term.coefficient)
        (by simpa using inRow)
      rw [entered, List.foldl_cons, ← entered, behind, List.reverse_cons,
        List.find?_append]
      cases terms.reverse.find? fun term => term.index == position + 1 with
      | some later =>
          rfl
      | none =>
          have positive := term.indexPositive
          by_cases same : term.index = position + 1
          · simp [same, inRow]
          · have elsewhere : term.index - 1 ≠ position := by
              omega
            simp [same, List.getElem?_set_ne elsewhere]

/-- Of the terms for a variable the last is left in the row. -/
theorem entered_replicate
    (expression : Expression)
    (width : Nat) :
    entered (List.replicate width 0) expression.terms = expression.row width := by
  apply List.ext_getElem?
  intro position
  by_cases inRow : position < width
  · rw [getElem_entered _ _ (by simpa using inRow), Expression.row,
      List.getElem?_map, List.getElem?_range inRow, Option.map_some,
      Expression.coefficientAt]
    cases expression.terms.reverse.find? fun term => term.index == position + 1 with
    | some last =>
        rfl
    | none =>
        simp [inRow]
  · rw [List.getElem?_eq_none, List.getElem?_eq_none]
    · simpa [Expression.row] using inRow
    · simpa [length_entered] using inRow

/-- The coefficients of a line are those of its expression. -/
theorem coefficients_lineTokens
    {expression : Expression}
    {tokens : List Token}
    (isLine : LineTokens expression tokens)
    {width : Nat}
    (covered : ∀ term ∈ expression.terms, term.index ≤ width) :
    coefficients width tokens = .ok (expression.row width) := by
  have filled :=
    enterAll_eq_entered (ofTokens_lineTokens isLine) (List.replicate width 0)
    (by simpa using covered)
  rw [coefficients, fillCoefficients, filled, FilledRow.complete, entered_replicate]

end LinearProgram.Grammar
