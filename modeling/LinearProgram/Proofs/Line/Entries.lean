import LinearProgram.Proofs.Line.Numbers
import LinearProgram.Proofs.Traversal
import Mathlib.Data.List.Chain

namespace LinearProgram

/-!
# What a line enters into a row

The terms of a line are all entered into a row exactly if no number in them is
too large and no index lies beyond the row (`exists_coefficients_iff`).
-/

/-- A failure for which only the numbers and the variables in the lines may be blamed. -/
inductive Failure.Unbuildable : Failure → Prop where
  | noVariables (line : Nat) : Unbuildable (.malformedLine line .noVariables)
  | invalidNumber (text : String) : Unbuildable (.invalidNumber text)
  | outOfRange (index width : Nat) : Unbuildable (.variableOutOfRange index width)

/-- A line whose terms can be entered into a row of the given width. -/
structure Enterable (width : Nat) (line : String) : Prop where
  /-- Every variable has a place in the row. -/
  indices : ∀ token ∈ tokenize line, token.kind = .variable →
    ∃ index, token.HasIndex index ∧ 1 ≤ index ∧ index ≤ width
  /-- Every integer directly in front of a variable is small enough. -/
  magnitudes : (tokenize line).IsChain fun token next =>
    token.kind = .integer → next.kind = .variable →
      (token.number : Int) ≤ Numeral.maxValue

theorem failsOnly_integerValue (text : String) :
    FailsOnly Failure.Unbuildable (Term.integerValue text) := by
  unfold Term.integerValue
  split
  · exact .ok _
  · exact .error (.invalidNumber text)

theorem failsOnly_variableIndex (text : String) :
    FailsOnly Failure.Unbuildable (variableIndex text) := by
  unfold variableIndex
  split
  · exact .error (.invalidNumber text)
  · split
    · exact .ok _
    · exact .error (.invalidNumber text)

namespace Term

/--
A token is a variable that makes a term of what is in front of it, or is not;
it leaves a magnitude to the next token only if it is an integer.
-/
theorem collect_cons
    (negated : Bool)
    (magnitude : Option String)
    (token : Token)
    (rest : List Token) :
    ∃ nextNegated,
      collect negated magnitude (token :: rest) =
        (if token.kind = .variable then [⟨negated, magnitude, token.text⟩] else []) ++
          collect nextNegated (if token.kind = .integer then some token.text else none)
            rest := by
  rw [collect]
  split
  · next sign kind =>
      exact ⟨sign == .minus, by simp [kind]⟩
  · next kind =>
      exact ⟨negated, by simp [kind]⟩
  · next kind =>
      exact ⟨false, by simp [kind]⟩
  · next noSign noInteger noVariable =>
      refine ⟨false, ?_⟩
      rw [if_neg noVariable, if_neg noInteger, List.nil_append]

/-- Every variable makes a term, and there are no other terms. -/
theorem map_variableText_collect
    (negated : Bool)
    (magnitude : Option String)
    (tokens : List Token) :
    (collect negated magnitude tokens).map Term.variableText = variableTexts tokens := by
  induction tokens generalizing negated magnitude with
  | nil =>
      rfl
  | cons token rest inductionHypothesis =>
      obtain ⟨nextNegated, collected⟩ := collect_cons negated magnitude token rest
      rw [collected, List.map_append, inductionHypothesis, variableTexts, variableTexts,
        List.filter_cons]
      by_cases kind : token.kind = .variable <;> simp [kind]

/-- The magnitude of a term is the integer directly in front of its variable. -/
theorem forall_magnitude_collect_iff
    {holds : String → Prop}
    (negated : Bool)
    (magnitude : Option String)
    (tokens : List Token) :
    (∀ term ∈ collect negated magnitude tokens, ∀ text ∈ term.magnitude, holds text) ↔
      (∀ next ∈ tokens.head?, ∀ text ∈ magnitude, next.kind = .variable → holds text) ∧
        tokens.IsChain fun token next =>
          token.kind = .integer → next.kind = .variable → holds token.text := by
  induction tokens generalizing negated magnitude with
  | nil =>
      simp [collect]
  | cons token rest inductionHypothesis =>
      obtain ⟨nextNegated, collected⟩ := collect_cons negated magnitude token rest
      have own :
          (∀ term ∈ if token.kind = .variable then
              [Term.mk negated magnitude token.text] else [],
            ∀ text ∈ term.magnitude, holds text) ↔
          ∀ text ∈ magnitude, token.kind = .variable → holds text := by
        by_cases kind : token.kind = .variable <;> simp [kind]
      have left :
          (∀ next ∈ rest.head?,
            ∀ text ∈ if token.kind = .integer then some token.text else none,
              next.kind = .variable → holds text) ↔
          ∀ next ∈ rest.head?, token.kind = .integer → next.kind = .variable →
            holds token.text := by
        by_cases kind : token.kind = .integer <;> simp [kind]
      rw [collected, List.forall_mem_append, inductionHypothesis, own, left,
        List.isChain_cons]
      simp

/-- The variables of the terms are those of the tokens. -/
theorem forall_variableText_ofTokens_iff
    (holds : String → Prop)
    (tokens : List Token) :
    (∀ term ∈ ofTokens tokens, holds term.variableText) ↔
      ∀ token ∈ tokens, token.kind = .variable → holds token.text := by
  rw [ofTokens, ← List.forall_mem_map, map_variableText_collect, variableTexts]
  simp only [List.forall_mem_map, List.mem_filter, beq_iff_eq, and_imp]

/-- The magnitudes of the terms are the integers right in front of variables. -/
theorem forall_magnitude_ofTokens_iff
    (holds : String → Prop)
    (tokens : List Token) :
    (∀ term ∈ ofTokens tokens, ∀ text ∈ term.magnitude, holds text) ↔
      tokens.IsChain fun token next =>
        token.kind = .integer → next.kind = .variable → holds token.text := by
  rw [ofTokens, forall_magnitude_collect_iff]
  exact and_iff_right nofun

/-- A term has a coefficient if its magnitude can be read. -/
theorem exists_coefficient_iff {term : Term} :
    (∃ coefficient, term.coefficient = .ok coefficient) ↔
      ∀ text ∈ term.magnitude, ∃ value, integerValue text = .ok value := by
  rw [coefficient]
  cases term.magnitude with
  | none =>
      exact iff_of_true ⟨_, rfl⟩ nofun
  | some text =>
      simp only [bind_eq_ok_iff, Option.mem_some_iff, forall_eq']
      constructor
      · rintro ⟨_, value, read, _⟩
        exact ⟨value, read⟩
      · rintro ⟨value, read⟩
        exact ⟨_, value, read, rfl⟩

/-- Entering a term sets the coefficient at its index. -/
theorem enter_eq_ok_iff
    {term : Term}
    {row entered : List Int} :
    term.enter row = .ok entered ↔
      ∃ coefficient index, term.coefficient = .ok coefficient ∧
        variableIndex term.variableText = .ok index ∧ 1 ≤ index ∧ index ≤ row.length ∧
        entered = row.set (index - 1) coefficient := by
  simp only [enter, bind_eq_ok_iff]
  constructor
  · rintro ⟨coefficient, read, index, found, placed⟩
    split at placed
    · next within =>
        cases placed
        exact ⟨coefficient, index, read, found, within.1, within.2, rfl⟩
    · cases placed
  · rintro ⟨coefficient, index, read, found, positive, within, rfl⟩
    refine ⟨coefficient, read, index, found, ?_⟩
    rw [if_pos ⟨positive, within⟩]
    rfl

/-- A term is entered if it has a coefficient and an index within the row. -/
theorem exists_enter_iff
    {term : Term}
    {row : List Int} :
    (∃ entered, term.enter row = .ok entered) ↔
      (∃ coefficient, term.coefficient = .ok coefficient) ∧
        ∃ index, variableIndex term.variableText = .ok index ∧ 1 ≤ index ∧
          index ≤ row.length := by
  simp only [enter_eq_ok_iff]
  constructor
  · rintro ⟨_, coefficient, index, read, found, positive, within, _⟩
    exact ⟨⟨coefficient, read⟩, index, found, positive, within⟩
  · rintro ⟨⟨coefficient, read⟩, index, found, positive, within⟩
    exact ⟨_, coefficient, index, read, found, positive, within, rfl⟩

theorem length_of_enter
    {term : Term}
    {row entered : List Int}
    (success : term.enter row = .ok entered) :
    entered.length = row.length := by
  obtain ⟨coefficient, index, _, _, _, _, rfl⟩ := enter_eq_ok_iff.mp success
  rw [List.length_set]

/-- A term is refused for its numbers alone. -/
theorem failsOnly_enter (term : Term) (row : List Int) :
    FailsOnly Failure.Unbuildable (term.enter row) := by
  have coefficient : FailsOnly Failure.Unbuildable term.coefficient := by
    rw [Term.coefficient]
    split
    · exact (failsOnly_integerValue _).bind fun _ _ => .ok _
    · exact .ok _
  refine coefficient.bind fun _ _ => ?_
  refine (failsOnly_variableIndex _).bind fun _ _ => ?_
  split
  · exact .ok _
  · exact .error (.outOfRange _ _)

end Term

namespace FilledRow

/-- A term that can be entered makes way for the next. -/
theorem enterAll_cons_of_ok
    {row entered : List Int}
    {term : Term}
    (success : term.enter row = .ok entered)
    (rest : List Term) :
    enterAll row (term :: rest) = enterAll entered rest := by
  rw [enterAll, success]

/-- The first term that is refused decides the failure. -/
theorem complete_enterAll_cons_of_error
    {row : List Int}
    {term : Term}
    {failure : Failure}
    (refused : term.enter row = .error failure)
    (rest : List Term) :
    (enterAll row (term :: rest)).complete = .error failure := by
  rw [enterAll, refused]
  rfl

/-- All terms are entered exactly if each of them could be entered by itself. -/
theorem exists_complete_enterAll_iff (row : List Int) (terms : List Term) :
    (∃ filled, (enterAll row terms).complete = .ok filled) ↔
      ∀ term ∈ terms, ∃ entered, term.enter row = .ok entered := by
  induction terms generalizing row with
  | nil =>
      exact iff_of_true ⟨row, rfl⟩ nofun
  | cons term rest inductionHypothesis =>
      rw [List.forall_mem_cons]
      cases outcome : term.enter row with
      | error failure =>
          rw [complete_enterAll_cons_of_error outcome]
          simp
      | ok entered =>
          rw [enterAll_cons_of_ok outcome, inductionHypothesis]
          -- Only the length of a row matters for what can be entered into it.
          simp [Term.exists_enter_iff, Term.length_of_enter outcome]

/-- A filled row holds what it held before and the coefficients of terms. -/
theorem complete_enterAll_spec
    {row filled : List Int}
    {terms : List Term}
    (success : (enterAll row terms).complete = .ok filled) :
    filled.length = row.length ∧
      ∀ entry ∈ filled, entry ∈ row ∨ ∃ term ∈ terms, term.coefficient = .ok entry := by
  induction terms generalizing row with
  | nil =>
      cases success
      exact ⟨rfl, fun entry member => .inl member⟩
  | cons term rest inductionHypothesis =>
      cases outcome : term.enter row with
      | error failure =>
          rw [complete_enterAll_cons_of_error outcome] at success
          cases success
      | ok entered =>
          rw [enterAll_cons_of_ok outcome] at success
          obtain ⟨length, entries⟩ := inductionHypothesis success
          refine ⟨length.trans (Term.length_of_enter outcome), ?_⟩
          intro entry member
          rcases entries entry member with inRow | ⟨other, inRest, isEntry⟩
          · obtain ⟨coefficient, index, read, _, _, _, rfl⟩ :=
              Term.enter_eq_ok_iff.mp outcome
            rcases List.mem_or_eq_of_mem_set inRow with before | rfl
            · exact .inl before
            · exact .inr ⟨term, List.mem_cons_self, read⟩
          · exact .inr ⟨other, List.mem_cons_of_mem _ inRest, isEntry⟩

theorem failsOnly_complete_enterAll (row : List Int) (terms : List Term) :
    FailsOnly Failure.Unbuildable (enterAll row terms).complete := by
  induction terms generalizing row with
  | nil =>
      exact .ok row
  | cons term rest inductionHypothesis =>
      cases outcome : term.enter row with
      | error failure =>
          rw [complete_enterAll_cons_of_error outcome]
          exact .error (term.failsOnly_enter row failure outcome)
      | ok entered =>
          rw [enterAll_cons_of_ok outcome]
          exact inductionHypothesis entered

end FilledRow

section Coefficients

variable {width : Nat} {line : String}

/-- The coefficients of a line are found exactly if its numbers admit it. -/
theorem exists_coefficients_iff :
    (∃ row, coefficients width (tokenize line) = .ok row) ↔ Enterable width line := by
  have indices :
      (∀ term ∈ Term.ofTokens (tokenize line),
        ∃ index, variableIndex term.variableText = .ok index ∧ 1 ≤ index ∧
          index ≤ width) ↔
      ∀ token ∈ tokenize line, token.kind = .variable →
        ∃ index, token.HasIndex index ∧ 1 ≤ index ∧ index ≤ width := by
    rw [Term.forall_variableText_ofTokens_iff fun text =>
      ∃ index, variableIndex text = .ok index ∧ 1 ≤ index ∧ index ≤ width]
    refine forall₂_congr fun token member => forall_congr' fun isVariable => ?_
    simp only [variableIndex_eq_ok_iff member isVariable]
  have magnitudes :
      (∀ term ∈ Term.ofTokens (tokenize line), ∀ text ∈ term.magnitude,
        ∃ value, Term.integerValue text = .ok value) ↔
      (tokenize line).IsChain fun token next =>
        token.kind = .integer → next.kind = .variable →
          (token.number : Int) ≤ Numeral.maxValue := by
    rw [Term.forall_magnitude_ofTokens_iff fun text =>
      ∃ value, Term.integerValue text = .ok value]
    refine List.IsChain.iff_of_mem_imp fun token next member _ => ?_
    refine forall_congr' fun integer => forall_congr' fun _ => ?_
    simp only [integerValue_eq_ok_iff member integer]
    simp
  rw [coefficients, fillCoefficients, FilledRow.exists_complete_enterAll_iff]
  simp only [Term.exists_enter_iff, List.length_replicate, Term.exists_coefficient_iff,
    forall₂_and, indices, magnitudes]
  constructor
  · rintro ⟨magnitudesFit, indicesFit⟩
    exact ⟨indicesFit, magnitudesFit⟩
  · rintro ⟨indicesFit, magnitudesFit⟩
    exact ⟨magnitudesFit, indicesFit⟩

/-- The coefficients of a line fill the width. -/
theorem length_of_coefficients
    {row : List Int}
    (success : coefficients width (tokenize line) = .ok row) :
    row.length = width := by
  rw [(FilledRow.complete_enterAll_spec success).1, List.length_replicate]

theorem failsOnly_coefficients (width : Nat) (tokens : List Token) :
    FailsOnly Failure.Unbuildable (coefficients width tokens) :=
  FilledRow.failsOnly_complete_enterAll _ _

/-- A coefficient is one or a number that has been read, with either sign. -/
theorem abs_le_of_coefficient
    {term : Term}
    (magnitudes : ∀ text ∈ term.magnitude, ∀ value, Term.integerValue text = .ok value →
      |value| ≤ Numeral.maxValue)
    {coefficient : Int}
    (success : term.coefficient = .ok coefficient) :
    |coefficient| ≤ Numeral.maxValue := by
  obtain ⟨negated, magnitude, variableText⟩ := term
  have bounded : ∀ value : Int, |value| ≤ Numeral.maxValue →
      |if negated then -value else value| ≤ Numeral.maxValue := by
    intro value bound
    cases negated with
    | true =>
        rwa [if_pos rfl, abs_neg]
    | false =>
        exact bound
  cases magnitude with
  | none =>
      cases success
      exact bounded 1 (by decide)
  | some text =>
      obtain ⟨value, read, signed⟩ := bind_eq_ok_iff.mp success
      cases signed
      exact bounded value (magnitudes text rfl value read)

/-- The magnitudes in a line have no sign, so those that are read are not negative. -/
theorem magnitude_inRange :
    ∀ term ∈ Term.ofTokens (tokenize line), ∀ text ∈ term.magnitude,
      ∀ value, Term.integerValue text = .ok value → 0 ≤ value ∧ value ≤ Numeral.maxValue := by
  rw [Term.forall_magnitude_ofTokens_iff fun text =>
    ∀ value, Term.integerValue text = .ok value → 0 ≤ value ∧ value ≤ Numeral.maxValue]
  have infixes := List.isChain_isInfix (tokenize line)
  refine infixes.imp_of_mem_imp fun token next member _ _ integer _ value read => ?_
  obtain ⟨rfl, fits⟩ := (integerValue_eq_ok_iff member integer).mp read
  exact ⟨Int.natCast_nonneg _, fits⟩

/-- No coefficient of a line is too large, whatever its sign. -/
theorem abs_le_of_mem_coefficients
    {row : List Int}
    (success : coefficients width (tokenize line) = .ok row) :
    ∀ entry ∈ row, |entry| ≤ Numeral.maxValue := by
  intro entry member
  rcases (FilledRow.complete_enterAll_spec success).2 entry member with
    isZero | ⟨term, isTerm, read⟩
  · rw [List.eq_of_mem_replicate isZero]
    decide
  · refine abs_le_of_coefficient (fun text given value isValue => ?_) read
    obtain ⟨notNegative, fits⟩ := magnitude_inRange term isTerm text given value isValue
    rwa [abs_of_nonneg notNegative]

/-- Coefficients are words of 64 bits. -/
theorem inRange_of_mem_coefficients
    {row : List Int}
    (success : coefficients width (tokenize line) = .ok row) :
    ∀ entry ∈ row, Numeral.minValue ≤ entry ∧ entry ≤ Numeral.maxValue := by
  intro entry member
  have bound := abs_le.mp (abs_le_of_mem_coefficients success entry member)
  exact ⟨Int.le_trans (by decide) bound.1, bound.2⟩

end Coefficients

end LinearProgram
