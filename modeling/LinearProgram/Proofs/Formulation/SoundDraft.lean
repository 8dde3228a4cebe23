import LinearProgram.Formulation.Draft
import LinearProgram.Proofs.Formulation.CleanCheck
import LinearProgram.Proofs.Traversal

namespace LinearProgram

/-!
# Sound drafts

What a draft holds fits together: the findings, the terminator and the
dimensions are those of its lines. A new draft is sound, a check leaves a sound
draft sound (`Sound.check`), and a question changes nothing but what is known of
the dimensions (`asked_answer`).
-/

namespace Formulation

/-- A line as it is kept, which is not empty and has no blanks. -/
structure IsNormal (line : String) : Prop where
  filled : line ≠ ""
  unbroken : ∀ character ∈ line.toList, Text.isBlank character = false

theorem isNormal_of_mem_normalLines
    {pieces : List (List Char)}
    {line : String}
    (member : line ∈ normalLines pieces) :
    IsNormal line := by
  obtain ⟨text, kept, rfl⟩ := List.mem_map.mp member
  obtain ⟨isPiece, filled⟩ := List.mem_filter.mp kept
  obtain ⟨piece, _, rfl⟩ := List.mem_map.mp isPiece
  constructor
  · simpa using filled
  · intro character isCharacter
    rw [String.toList_ofList] at isCharacter
    exact Text.isBlank_of_mem_compact isCharacter

/-- The lines of a problem that is opened are normal. -/
theorem isNormal_of_ofSource
    {read : String → Except FileError String}
    {file text : Option String}
    {delimiter : String}
    {formulation : Formulation}
    (success : ofSource read file text delimiter = .ok formulation) :
    ∀ line ∈ formulation.lines, IsNormal line := by
  unfold ofSource at success
  split at success
  · split at success
    · cases success
      exact fun line => isNormal_of_mem_normalLines
    · cases success
  · next piece =>
      unfold linesOfText at success
      split at success
      · cases success
      · cases success
        exact fun line => isNormal_of_mem_normalLines
  · cases success
  · cases success

end Formulation

/-- Whether a question needs the dimensions of the problem. -/
def Query.measures : Query → Bool
  | .report => false
  | .lineVariables _ => false
  | .allVariables => false
  | .dimensions => true
  | .matrix _ => true
  | .dualMatrix _ => true
  | .matrices => true
  | .dualMatrices => true

namespace Draft

open Formulation (Diagnostic Diagnosis Diagnosed Clean Dimensions IsNormal)

/-- A draft whose parts fit together. -/
structure Sound (draft : Draft) : Prop where
  normal : ∀ line ∈ draft.lines, IsNormal line
  /-- Nothing has been found before the first check. -/
  unchecked : draft.checked = false → draft.diagnostics = [] ∧ draft.terminator = none
  /-- Only a draft with lines passes for checked. -/
  filled : draft.checked → draft.lines ≠ []
  /-- A terminator that has been found was behind the last line. -/
  cut : ∀ index ∈ draft.terminator, draft.lines.length = index
  /-- Once a terminator has been found, none is left behind the objective. -/
  ended : draft.terminator.isSome →
    ∀ line ∈ draft.lines.tail, isTerminatorLine (tokenize line) = false
  order : draft.diagnostics.Sublist Diagnostic.all
  oneDirection :
    ¬ (.missingDirection ∈ draft.diagnostics ∧ .ambiguousDirection ∈ draft.diagnostics)
  /-- A check that finds no errors has found a terminator and clean lines. -/
  clean : draft.checked → draft.diagnostics = [] →
    draft.terminator = some draft.lines.length ∧ Clean draft.lines
  /-- The dimensions that are known are those of the lines. -/
  known : ∀ dimensions ∈ draft.known, Formulation.dimensionsOf draft.lines = .ok dimensions

/-- A draft that is asked keeps all but what is known of its dimensions. -/
inductive Asked (draft : Draft) : Draft → Prop where
  | same : Asked draft draft
  | measured
      {dimensions : Dimensions}
      (found : Formulation.dimensionsOf draft.lines = .ok dimensions) :
      Asked draft { draft with known := some dimensions }

/-- A draft of normal lines is sound before it is checked. -/
theorem sound_ofLines
    {lines : List String}
    (normal : ∀ line ∈ lines, IsNormal line) :
    (ofLines lines).Sound where
  normal := normal
  unchecked := fun _ => ⟨rfl, rfl⟩
  filled := by simp [ofLines]
  cut := by simp [ofLines]
  ended := by simp [ofLines]
  order := List.nil_sublist _
  oneDirection := by simp [ofLines]
  clean := by simp [ofLines]
  known := by simp [ofLines]

/-- Questions leave a sound draft sound. -/
theorem Sound.asked
    {draft after : Draft}
    (sound : draft.Sound)
    (asked : Asked draft after) :
    after.Sound := by
  cases asked with
  | same =>
      exact sound
  | measured found =>
      refine { sound with known := ?_ }
      intro dimensions known
      cases known
      exact found

/-- A draft without lines has not been checked, so nothing has been found in it. -/
theorem Sound.unchecked_of_lines_eq_nil
    {draft : Draft}
    (sound : draft.Sound)
    (noLines : draft.lines = []) :
    draft.checked = false := by
  rw [← Bool.not_eq_true]
  exact fun checked => sound.filled checked noLines

/-- A draft that has been checked, with what the checks have found. -/
def ofCheck
    (lines : List String)
    (diagnostics : List Diagnostic)
    (terminator : Option Nat) : Draft :=
  ⟨lines, diagnostics, terminator, true, none⟩

/-- A check leaves what its diagnosis says, and a terminator found before if it finds none. -/
theorem check_of_diagnose
    {draft : Draft}
    {diagnosis : Diagnosis}
    (outcome : Formulation.diagnose draft.lines = .ok diagnosis) :
    draft.check.2 =
      ofCheck diagnosis.lines diagnosis.diagnostics
        (diagnosis.terminator <|> draft.terminator) := by
  rw [Draft.check, outcome]
  rfl

/-- What a check finds fits the lines that it leaves. -/
theorem Sound.check
    {draft : Draft}
    (sound : draft.Sound) :
    draft.check.2.Sound := by
  cases lines : draft.lines with
  | nil =>
      have unchecked := sound.unchecked_of_lines_eq_nil lines
      have failed : draft.check.2 = { draft with diagnostics := [], known := none } := by
        rw [Draft.check, lines]
        rfl
      rw [failed]
      exact
        { sound with
          unchecked := fun _ => ⟨rfl, (sound.unchecked unchecked).2⟩
          order := List.nil_sublist _
          oneDirection := fun both => List.not_mem_nil both.1
          clean := fun checked => absurd checked (by simp [unchecked])
          known := by simp }
  | cons objective following =>
      obtain ⟨diagnosis, outcome, diagnosed⟩ :=
        Formulation.diagnose_diagnosed objective following
      obtain ⟨kept, keptLines, isPrefix⟩ := diagnosed.lines_eq
      have subset : diagnosis.lines ⊆ draft.lines := by
        rw [keptLines, lines]
        exact List.cons_subset_cons objective isPrefix.subset
      rw [← lines] at outcome
      rw [check_of_diagnose outcome]
      exact
        { normal := fun line member => sound.normal line (subset member)
          unchecked := fun unchecked => by cases unchecked
          filled := fun _ => by simp [ofCheck, keptLines]
          cut := by
            intro index found
            cases terminator : diagnosis.terminator with
            | some place =>
                rw [terminator] at found
                cases found
                exact diagnosed.cut terminator
            | none =>
                rw [terminator] at found
                rw [diagnosed.whole terminator, ← lines]
                exact sound.cut index found
          ended := fun _ => diagnosed.noTerminator
          order := diagnosed.order
          oneDirection := diagnosed.oneDirection
          clean := fun _ noErrors => by
            obtain ⟨found, clean⟩ := diagnosed.clean noErrors
            exact ⟨by rw [ofCheck, found]; rfl, clean⟩
          known := by simp [ofCheck] }

/-- A problem may be measured once a check of its lines has found no errors. -/
theorem requireValid_eq_ok_iff {draft : Draft} :
    draft.formulation.requireValid = .ok () ↔
      draft.lines ≠ [] ∧ draft.checked ∧ draft.diagnostics = [] := by
  unfold Formulation.requireValid formulation
  cases lines : draft.lines with
  | nil =>
      simp
  | cons objective following =>
      cases checked : draft.checked with
      | false =>
          simp
      | true =>
          cases diagnostics : draft.diagnostics <;> simp

section Agreement

variable {draft : Draft}

theorem dimensions_formulation
    (valid : draft.formulation.requireValid = .ok ()) :
    draft.formulation.dimensions = Formulation.dimensionsOf draft.lines := by
  rw [Formulation.dimensions, valid]
  rfl

/-- A problem has dimensions if it is valid and its lines have them. -/
theorem dimensions_formulation_eq_ok_iff {dimensions : Dimensions} :
    draft.formulation.dimensions = .ok dimensions ↔
      draft.formulation.requireValid = .ok () ∧
        Formulation.dimensionsOf draft.lines = .ok dimensions := by
  rw [Formulation.dimensions, bind_eq_ok_iff]
  constructor
  · rintro ⟨_, valid, found⟩
    exact ⟨valid, found⟩
  · rintro ⟨valid, found⟩
    exact ⟨(), valid, found⟩

/-- The dimensions of a sound draft are known once they have been asked for. -/
theorem Sound.dimensions_of_ok
    (sound : draft.Sound)
    {dimensions : Dimensions}
    (success : draft.formulation.dimensions = .ok dimensions) :
    draft.dimensions = (.ok dimensions, { draft with known := some dimensions }) := by
  obtain ⟨valid, found⟩ := dimensions_formulation_eq_ok_iff.mp success
  rw [Draft.dimensions, valid]
  cases known : draft.known with
  | some before =>
      have same : { draft with known := some before } = draft := by
        rw [← known]
      rw [sound.known before known] at found
      cases found
      simp only [same]
  | none =>
      rw [found]

/-- A draft is left as it is if its dimensions cannot be told. -/
theorem Sound.dimensions_of_error
    (sound : draft.Sound)
    {failure : Failure}
    (refused : draft.formulation.dimensions = .error failure) :
    draft.dimensions = (.error failure, draft) := by
  cases valid : draft.formulation.requireValid with
  | error reason =>
      rw [Formulation.dimensions, valid] at refused
      cases refused
      rw [Draft.dimensions, valid]
  | ok _ =>
      rw [dimensions_formulation valid] at refused
      rw [Draft.dimensions, valid]
      cases known : draft.known with
      | some before =>
          rw [sound.known before known] at refused
          cases refused
      | none =>
          rw [refused]

/-- Remembered dimensions are those of the problem. -/
theorem Sound.dimensions_fst (sound : draft.Sound) :
    draft.dimensions.1 = draft.formulation.dimensions := by
  cases outcome : draft.formulation.dimensions with
  | ok dimensions =>
      rw [sound.dimensions_of_ok outcome]
  | error failure =>
      rw [sound.dimensions_of_error outcome]

/-- Matrices are those of the problem, and the dimensions are remembered. -/
theorem Sound.matrices_eq (sound : draft.Sound) :
    draft.matrices = (draft.formulation.matrices, draft.dimensions.2) := by
  rw [Draft.matrices, measured, sound.dimensions_fst]
  rfl

theorem Sound.dualMatrices_eq (sound : draft.Sound) :
    draft.dualMatrices = (draft.formulation.dualMatrices, draft.dimensions.2) := by
  rw [Draft.dualMatrices, sound.matrices_eq]
  rfl

theorem Sound.matricesOf_eq (sound : draft.Sound) (dual : Bool) :
    draft.matricesOf dual = (draft.formulation.matricesOf dual, draft.dimensions.2) := by
  cases dual with
  | true =>
      exact sound.dualMatrices_eq
  | false =>
      exact sound.matrices_eq

/-- Whatever is known already, a sound draft answers as its formulation does. -/
theorem Sound.answer_fst (sound : draft.Sound) (query : Query) :
    (draft.answer query).1 = draft.formulation.answer query := by
  cases query with
  | report =>
      cases checked : draft.checked with
      | true =>
          simp [answer, Formulation.answer, Formulation.reportText, Formulation.diagnostics,
            formulation, checked]
      | false =>
          simp [answer, Formulation.answer, Formulation.reportText, Formulation.diagnostics,
            formulation, checked, (sound.unchecked checked).1]
  | lineVariables line =>
      rfl
  | allVariables =>
      rfl
  | dimensions =>
      rw [answer, Prod.map_fst, sound.dimensions_fst]
      rfl
  | matrix spelling =>
      rw [answer, Draft.matrix, Formulation.answer, Formulation.matrix]
      cases Formulation.matrixName spelling with
      | error failure =>
          rfl
      | ok name =>
          simp only [Prod.map_fst, measured, sound.dimensions_fst]
          rfl
  | dualMatrix spelling =>
      rw [answer, Draft.dualMatrix, Formulation.answer, Formulation.dualMatrix]
      cases Formulation.matrixName spelling with
      | error failure =>
          rfl
      | ok name =>
          simp only [Prod.map_fst, sound.dualMatrices_eq]
          rfl
  | matrices =>
      rw [answer, sound.matrices_eq]
      rfl
  | dualMatrices =>
      rw [answer, sound.dualMatrices_eq]
      rfl

/-- A question changes nothing but what is known of the dimensions. -/
theorem Sound.asked_dimensions (sound : draft.Sound) : Asked draft draft.dimensions.2 := by
  cases outcome : draft.formulation.dimensions with
  | error failure =>
      rw [sound.dimensions_of_error outcome]
      exact .same
  | ok dimensions =>
      rw [sound.dimensions_of_ok outcome]
      exact .measured (dimensions_formulation_eq_ok_iff.mp outcome).2

/-- An answer leaves nothing behind but dimensions. -/
theorem Sound.asked_answer (sound : draft.Sound) (query : Query) :
    Asked draft (draft.answer query).2 := by
  cases query with
  | report =>
      exact .same
  | lineVariables line =>
      exact .same
  | allVariables =>
      exact .same
  | dimensions =>
      exact sound.asked_dimensions
  | matrix spelling =>
      rw [answer, Draft.matrix]
      cases Formulation.matrixName spelling with
      | error failure =>
          exact .same
      | ok name =>
          exact sound.asked_dimensions
  | dualMatrix spelling =>
      rw [answer, Draft.dualMatrix]
      cases Formulation.matrixName spelling with
      | error failure =>
          exact .same
      | ok name =>
          exact sound.asked_dimensions
  | matrices =>
      exact sound.asked_dimensions
  | dualMatrices =>
      exact sound.asked_dimensions

/-- A question about the dimensions or the matrices is answered only if there are dimensions. -/
theorem exists_dimensions_of_answer
    {query : Query}
    {answer : Answer}
    (measures : query.measures)
    (success : draft.formulation.answer query = .ok answer) :
    ∃ dimensions, draft.formulation.dimensions = .ok dimensions := by
  cases outcome : draft.formulation.dimensions with
  | ok dimensions =>
      exact ⟨dimensions, rfl⟩
  | error failure =>
      have noMatrices : draft.formulation.matrices = .error failure := by
        rw [Formulation.matrices, outcome]
        rfl
      have noDual : draft.formulation.dualMatrices = .error failure := by
        rw [Formulation.dualMatrices, noMatrices]
        rfl
      cases query with
      | report => cases measures
      | lineVariables line => cases measures
      | allVariables => cases measures
      | dimensions =>
          rw [Formulation.answer, outcome] at success
          cases success
      | matrix spelling =>
          rw [Formulation.answer, Formulation.matrix, outcome] at success
          cases name : Formulation.matrixName spelling <;>
            (rw [name] at success; cases success)
      | dualMatrix spelling =>
          rw [Formulation.answer, Formulation.dualMatrix, noDual] at success
          cases name : Formulation.matrixName spelling <;>
            (rw [name] at success; cases success)
      | matrices =>
          rw [Formulation.answer, noMatrices] at success
          cases success
      | dualMatrices =>
          rw [Formulation.answer, noDual] at success
          cases success

end Agreement

end Draft

end LinearProgram
