import LinearProgram.Formulation.Diagnosis
import LinearProgram.Proofs.Line.Parts
import Mathlib.Order.Bounds.Basic

namespace LinearProgram.Formulation

/-!
# Diagnoses in terms of the text

A check of the lines scans them for tokens. What it reports can be told from
the characters of the lines alone, whatever else the lines contain.
-/

/--
What a diagnostic says of an objective, of the lines behind it and of the lines
that are kept, the first of which is the objective.
-/
def Diagnostic.Present
    (objective : String)
    (following kept : List String) : Diagnostic → Prop
  | .missingDirection => ∀ direction, ¬ Mentions direction objective
  | .ambiguousDirection => ∀ direction, Mentions direction objective
  | .missingInitializer =>
      ¬ ∃ line, following.head? = some line ∧ hasKind .initializer (tokenize line)
  | .missingTerminator => ∀ line ∈ following, ¬ IsEnd line
  | .missingRelation => ∃ line ∈ kept.tail, '=' ∉ line.toList
  | .missingRightHandSide => ∃ line ∈ kept.tail, ¬ Assigns line.toList
  | .missingSign => ∃ line ∈ kept, ¬ Balanced line

/--
What a diagnosis has to say of the text of an objective and the lines behind it.
-/
structure Diagnosis.Describes
    (diagnosis : Diagnosis)
    (objective : String)
    (following : List String) : Prop where
  /-- The terminator is the first line behind the objective that says `end`. -/
  terminator (index : Nat) :
    diagnosis.terminator = some index ↔
      IsLeast
        {place | 1 ≤ place ∧
          ∃ line, (objective :: following)[place]? = some line ∧ IsEnd line}
        index
  /-- The lines in front of the terminator are kept. -/
  lines :
    diagnosis.lines =
      match diagnosis.terminator with
      | some index => (objective :: following).take index
      | none => objective :: following
  /-- The diagnostics come in their order, each at most once. -/
  order : diagnosis.diagnostics.Sublist Diagnostic.all
  once : diagnosis.diagnostics.Nodup
  diagnostics (diagnostic : Diagnostic) :
    diagnostic ∈ diagnosis.diagnostics ↔
      diagnostic.Present objective following diagnosis.lines

theorem forall_direction_iff
    {holds : Direction → Prop} :
    (∀ direction, holds direction) ↔ holds .min ∧ holds .max := by
  constructor
  · intro all
    exact ⟨all .min, all .max⟩
  · rintro ⟨min, max⟩ direction
    cases direction with
    | min =>
        exact min
    | max =>
        exact max

/-- The errors found among tokens are those that the text shows. -/
theorem shows_iff
    {objective : String}
    {following constraints : List String}
    {outline : Outline}
    (tokens : outline = ⟨tokenize objective, following.map tokenize⟩)
    (kept : outline.constraints = constraints.map tokenize)
    (diagnostic : Diagnostic) :
    outline.shows diagnostic ↔
      diagnostic.Present objective following (objective :: constraints) := by
  cases diagnostic with
  | missingDirection =>
      simp [Outline.shows, tokens, Diagnostic.Present, forall_direction_iff,
        ← hasKind_direction_tokenize]
  | ambiguousDirection =>
      simp [Outline.shows, tokens, Diagnostic.Present, forall_direction_iff,
        ← hasKind_direction_tokenize]
  | missingInitializer =>
      cases following <;> simp [Outline.shows, tokens, Diagnostic.Present]
  | missingTerminator =>
      simp [Outline.shows, Outline.terminator?, tokens, Diagnostic.Present,
        ← isTerminatorLine_tokenize]
  | missingRelation =>
      simp [Outline.shows, kept, Diagnostic.Present, ← relation?_tokenize]
  | missingRightHandSide =>
      simp [Outline.shows, kept, Diagnostic.Present, ← rightHandSide?_tokenize]
  | missingSign =>
      simp only [Outline.shows, kept]
      simp [tokens, Diagnostic.Present, ← signsBalance_tokenize]

/--
The terminator is the first line behind the objective that says so, counted from the
objective.
-/
theorem terminator?_eq_some_iff
    (objective : String)
    (following : List String)
    {count : Nat} :
    (following.map tokenize).findIdx? isTerminatorLine = some count ↔
      IsLeast
        {place | 1 ≤ place ∧
          ∃ line, (objective :: following)[place]? = some line ∧ IsEnd line}
        (count + 1) := by
  rw [List.findIdx?_map, List.findIdx?_eq_some_iff_getElem]
  constructor
  · rintro ⟨inBounds, isEnd, least⟩
    constructor
    · refine ⟨Nat.le_add_left 1 count, following[count], ?_,
        isTerminatorLine_tokenize.mp isEnd⟩
      rw [List.getElem?_cons_succ, List.getElem?_eq_getElem inBounds]
    · rintro place ⟨positive, line, atPlace, lineIsEnd⟩
      obtain ⟨before, rfl⟩ := Nat.exists_eq_add_of_le' positive
      rw [List.getElem?_cons_succ] at atPlace
      obtain ⟨_, rfl⟩ := List.getElem?_eq_some_iff.mp atPlace
      by_contra early
      exact least before (by omega) (isTerminatorLine_tokenize.mpr lineIsEnd)
  · rintro ⟨⟨_, line, atPlace, isEnd⟩, least⟩
    rw [List.getElem?_cons_succ] at atPlace
    obtain ⟨inBounds, rfl⟩ := List.getElem?_eq_some_iff.mp atPlace
    refine ⟨inBounds, isTerminatorLine_tokenize.mpr isEnd, ?_⟩
    intro before early beforeIsEnd
    have bound : count + 1 ≤ before + 1 := by
      apply least
      refine ⟨Nat.le_add_left 1 before, following[before], ?_,
        isTerminatorLine_tokenize.mp beforeIsEnd⟩
      rw [List.getElem?_cons_succ, List.getElem?_eq_getElem]
    omega

theorem mem_diagnostics_iff
    {outline : Outline}
    {diagnostic : Diagnostic} :
    diagnostic ∈ outline.diagnostics ↔ outline.shows diagnostic := by
  have complete : diagnostic ∈ Diagnostic.all := by
    cases diagnostic <;> decide
  rw [Outline.diagnostics, List.mem_filter, and_iff_right complete]

/-- Errors are reported in the one order. -/
theorem diagnostics_sublist (outline : Outline) :
    outline.diagnostics.Sublist Diagnostic.all :=
  List.filter_sublist

theorem diagnostics_nodup (outline : Outline) : outline.diagnostics.Nodup := by
  have nodup : Diagnostic.all.Nodup := by
    decide
  exact nodup.sublist (diagnostics_sublist outline)

/-- A check cuts the lines at the terminator that it finds. -/
theorem diagnose_of_terminator
    {objective : String}
    {following : List String}
    {outline : Outline}
    (tokens : outline = ⟨tokenize objective, following.map tokenize⟩)
    {count : Nat}
    (found : outline.terminator? = some count) :
    diagnose (objective :: following) =
      .ok ⟨outline.diagnostics, some (count + 1), objective :: following.take count⟩ := by
  subst tokens
  simp only [diagnose]
  rw [found]

/-- A check that finds no terminator keeps all lines. -/
theorem diagnose_of_no_terminator
    {objective : String}
    {following : List String}
    {outline : Outline}
    (tokens : outline = ⟨tokenize objective, following.map tokenize⟩)
    (missing : outline.terminator? = none) :
    diagnose (objective :: following) =
      .ok ⟨outline.diagnostics, none, objective :: following⟩ := by
  subst tokens
  simp only [diagnose]
  rw [missing]

/--
The check of a nonempty list of lines succeeds, and what it reports describes
their text.
-/
theorem diagnose_describes
    (objective : String)
    (following : List String) :
    ∃ diagnosis, diagnose (objective :: following) = .ok diagnosis ∧
      diagnosis.Describes objective following := by
  let outline : Outline := ⟨tokenize objective, following.map tokenize⟩
  cases found : outline.terminator? with
  | some count =>
      refine ⟨_, diagnose_of_terminator rfl found, ?_⟩
      have constraints : outline.constraints =
          (following.take count).map tokenize := by
        rw [Outline.constraints, found, List.map_take]
      refine ⟨?_, rfl, diagnostics_sublist outline, diagnostics_nodup outline, ?_⟩
      · intro index
        have least := (terminator?_eq_some_iff objective following).mp found
        constructor
        · intro same
          cases same
          exact least
        · intro isLeast
          rw [least.unique isLeast]
      · intro diagnostic
        rw [mem_diagnostics_iff]
        exact shows_iff rfl constraints diagnostic
  | none =>
      refine ⟨_, diagnose_of_no_terminator rfl found, ?_⟩
      have constraints : outline.constraints = following.map tokenize := by
        rw [Outline.constraints, found]
      refine ⟨?_, rfl, diagnostics_sublist outline, diagnostics_nodup outline, ?_⟩
      · intro index
        constructor
        · intro same
          cases same
        · intro isLeast
          obtain ⟨count, rfl⟩ := Nat.exists_eq_add_of_le' isLeast.1.1
          rw [Outline.terminator?,
            (terminator?_eq_some_iff objective following).mpr isLeast] at found
          cases found
      · intro diagnostic
        rw [mem_diagnostics_iff]
        exact shows_iff rfl constraints diagnostic

end LinearProgram.Formulation
