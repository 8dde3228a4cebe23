import LinearProgram.Line.Terms
import LinearProgram.Proofs.Line.Respelling
import LinearProgram.Proofs.Traversal

namespace LinearProgram

/-!
# What is read from other spellings

The variables and the coefficients of a line do not depend on its spelling. If a
number is too large, the failure names it as it is spelled, so failures are
compared up to the case of the text that they name.
-/

/-- Failures that are the same but for the case of a text that is no number. -/
inductive SameFailure : Failure → Failure → Prop where
  | same (failure : Failure) : SameFailure failure failure
  | number
      {text other : String}
      (lowered : Text.lowercase text = Text.lowercase other) :
      SameFailure (.invalidNumber text) (.invalidNumber other)

/-- The same value, or failures that are the same but for the case of a text. -/
inductive SameOutcome : Except Failure α → Except Failure α → Prop where
  | ok (value : α) : SameOutcome (.ok value) (.ok value)
  | error
      {failure other : Failure}
      (same : SameFailure failure other) :
      SameOutcome (.error failure) (.error other)

namespace SameOutcome

theorem refl (outcome : Except Failure α) : SameOutcome outcome outcome := by
  cases outcome with
  | error failure =>
      exact .error (.same failure)
  | ok value =>
      exact .ok value

/-- Requests in a row come to the same if each of them does. -/
theorem bind
    {outcome other : Except Failure α}
    {next otherNext : α → Except Failure β}
    (first : SameOutcome outcome other)
    (second : ∀ value, SameOutcome (next value) (otherNext value)) :
    SameOutcome (outcome >>= next) (other >>= otherNext) := by
  cases first with
  | ok value =>
      exact second value
  | error same =>
      exact .error same

/-- A traversal of items that are alike comes to the same. -/
theorem mapM
    {related : α → β → Prop}
    {items : List α}
    {others : List β}
    {f : α → Except Failure γ}
    {g : β → Except Failure γ}
    (alike : List.Forall₂ related items others)
    (each : ∀ item other, related item other → SameOutcome (f item) (g other)) :
    SameOutcome (items.mapM f) (others.mapM g) := by
  induction alike with
  | nil =>
      exact .ok []
  | cons head _ inductionHypothesis =>
      rw [List.mapM_cons, List.mapM_cons]
      exact (each _ _ head).bind fun _ => inductionHypothesis.bind fun _ => .ok _

end SameOutcome

/-! ## Variables -/

theorem SameVariable.lowercase
    {text other : String}
    (same : SameVariable text other) :
    Text.lowercase text = Text.lowercase other := by
  obtain ⟨letter, otherLetter, digits, isLetter, otherIsLetter, spelled, otherSpelled⟩ := same
  have small : ∀ character ∈ ['x', 'X'], character.toLower = 'x' := by
    simp
  rw [Text.lowercase, Text.lowercase, spelled, otherSpelled, List.map_cons, List.map_cons,
    small letter isLetter, small otherLetter otherIsLetter]

/-- One variable has one index, or is refused in both spellings. -/
theorem SameVariable.variableIndex
    {text other : String}
    (same : SameVariable text other) :
    SameOutcome (variableIndex text) (variableIndex other) := by
  have lowered := same.lowercase
  obtain ⟨letter, otherLetter, digits, isLetter, otherIsLetter, spelled, otherSpelled⟩ := same
  have oneByte : ∀ character ∈ ['x', 'X'], character.utf8Size = 1 := by
    simp only [List.forall_mem_cons]
    exact ⟨rfl, rfl, by simp⟩
  simp only [LinearProgram.variableIndex, spelled, otherSpelled, oneByte letter isLetter,
    oneByte otherLetter otherIsLetter, if_true]
  cases Numeral.index? digits with
  | none =>
      exact .error (.number lowered)
  | some index =>
      exact .ok index

/-- The variables of a respelled line are the same, in order. -/
theorem sameVariable_variableTexts
    {tokens others : List Token}
    (alike : List.Forall₂ Token.Respelled tokens others) :
    List.Forall₂ SameVariable (variableTexts tokens) (variableTexts others) := by
  induction alike with
  | nil =>
      exact .nil
  | @cons token other tokens others head _ inductionHypothesis =>
      rw [variableTexts, variableTexts, List.filter_cons, List.filter_cons, ← head.kind]
      cases isVariable : token.kind == .variable with
      | false =>
          exact inductionHypothesis
      | true =>
          exact .cons (head.indexed (beq_iff_eq.mp isVariable)) inductionHypothesis

theorem lastIndex_congr
    {texts others : List String}
    (alike : List.Forall₂ SameVariable texts others) :
    SameOutcome (lastIndex texts) (lastIndex others) := by
  have reversed := List.forall₂_reverse_iff.mpr alike
  rw [lastIndex, lastIndex, List.getLast?_eq_head?_reverse, List.getLast?_eq_head?_reverse]
  generalize texts.reverse = backwards at reversed
  generalize others.reverse = otherBackwards at reversed
  cases reversed with
  | nil =>
      exact .ok 0
  | cons head _ =>
      exact head.variableIndex

/-- The variables of a line do not depend on its spelling. -/
theorem VariableSet.ofTokens_congr
    {tokens others : List Token}
    (alike : List.Forall₂ Token.Respelled tokens others) :
    SameOutcome (VariableSet.ofTokens tokens) (VariableSet.ofTokens others) := by
  have texts := sameVariable_variableTexts alike
  have lowered :
      (variableTexts tokens).map Text.lowercase =
        (variableTexts others).map Text.lowercase :=
    map_eq_of_forall₂ texts fun _ _ same => same.lowercase
  rw [VariableSet.ofTokens, VariableSet.ofTokens, lowered]
  exact (lastIndex_congr texts).bind fun width => .ok _

/-! ## Terms -/

namespace Term

/-- Terms with the same coefficient and variable. -/
structure Respelled (term other : Term) : Prop where
  negated : term.negated = other.negated
  magnitude : term.magnitude = other.magnitude
  name : SameVariable term.variableText other.variableText

/-- The terms of a respelled line are the same, respelled. -/
theorem respelled_collect
    {tokens others : List Token}
    (alike : List.Forall₂ Token.Respelled tokens others)
    (negated : Bool)
    (magnitude : Option String) :
    List.Forall₂ Respelled
      (collect negated magnitude tokens) (collect negated magnitude others) := by
  induction alike generalizing negated magnitude with
  | nil =>
      exact .nil
  | cons head _ inductionHypothesis =>
      rw [collect, collect, ← head.kind]
      split
      · exact inductionHypothesis _ _
      · next kind =>
          rw [head.integer kind]
          exact inductionHypothesis _ _
      · next kind =>
          exact .cons ⟨rfl, rfl, head.indexed kind⟩ (inductionHypothesis _ _)
      · exact inductionHypothesis _ _

theorem coefficient_congr
    {term other : Term}
    (alike : Respelled term other) :
    term.coefficient = other.coefficient := by
  rw [coefficient, coefficient, alike.magnitude, alike.negated]

/-- A respelled term is entered at the same place, or fails alike. -/
theorem enter_congr
    {term other : Term}
    (alike : Respelled term other)
    (row : List Int) :
    SameOutcome (term.enter row) (other.enter row) := by
  rw [enter, enter, coefficient_congr alike]
  exact (SameOutcome.refl _).bind fun coefficient =>
    alike.name.variableIndex.bind fun index => .refl _

end Term

/-- Terms are entered alike, up to the first that fails. -/
theorem FilledRow.complete_enterAll_congr
    {terms others : List Term}
    (alike : List.Forall₂ Term.Respelled terms others)
    (row : List Int) :
    SameOutcome (enterAll row terms).complete (enterAll row others).complete := by
  induction alike generalizing row with
  | nil =>
      exact .ok row
  | @cons term other _ _ head _ inductionHypothesis =>
      have entered := Term.enter_congr head row
      rw [enterAll, enterAll]
      generalize term.enter row = outcome at entered
      generalize other.enter row = otherOutcome at entered
      cases entered with
      | ok filled =>
          exact inductionHypothesis filled
      | error same =>
          exact .error same

/-- The coefficients of a line do not depend on its spelling. -/
theorem coefficients_congr
    {tokens others : List Token}
    (alike : List.Forall₂ Token.Respelled tokens others)
    (width : Nat) :
    SameOutcome (coefficients width tokens) (coefficients width others) :=
  FilledRow.complete_enterAll_congr (Term.respelled_collect alike false none) _

end LinearProgram
