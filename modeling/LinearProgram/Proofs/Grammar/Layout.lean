import LinearProgram.Formulation.Normal
import LinearProgram.Proofs.Grammar.Lines
import LinearProgram.Proofs.Text.Lines

namespace LinearProgram.Grammar

/-!
# From a text to its lines

The normal lines of a text are those it has been laid out from: inserted blanks
are taken out again, blank lines are dropped, and what follows the terminator
stays behind it.
-/

/-- A text without blanks. -/
def Filled (text : List Char) : Prop :=
  ∀ character ∈ text, Text.isBlank character = false

theorem Filled.append
    {first second : List Char}
    (filled : Filled first)
    (filledSecond : Filled second) :
    Filled (first ++ second) :=
  List.forall_mem_append.mpr ⟨filled, filledSecond⟩

theorem filled_number
    {number : Nat}
    {text : List Char}
    (spells : SpellsNumber number text) :
    Filled text := by
  obtain ⟨first, rest, rfl, digit, digits⟩ := exists_cons_of_spellsNumber spells
  intro character member
  rcases List.mem_cons.mp member with rfl | inRest
  · exact Text.isBlank_of_isDigit digit
  · exact Text.isBlank_of_isDigit (digits character inRest)

/-- A keyword without blanks is written without blanks in either case. -/
theorem filled_keyword
    {keyword text : List Char}
    (spells : SpellsKeyword keyword text)
    (noBlank : keyword.all fun letter => !Text.isBlank letter) :
    Filled text := by
  intro character member
  have inKeyword : character.toLower ∈ keyword := by
    rw [← spells]
    exact List.mem_map_of_mem member
  have filled := List.all_eq_true.mp noBlank _ inKeyword
  rw [Bool.not_eq_true'] at filled
  exact Text.isBlank_of_toLower rfl filled

/-- A term is written without blanks. -/
theorem filled_monomial
    {leading : Bool}
    {term : Monomial}
    {text : List Char}
    (spells : SpellsMonomial leading term text) :
    Filled text := by
  cases spells with
  | @parts sign magnitude index letter spellsSign spellsMagnitude isLetter
      spellsIndex =>
      have filledSign : Filled sign := by
        generalize term.sign = written at spellsSign
        cases spellsSign <;> simp [Filled] <;> rfl
      have filledMagnitude : Filled magnitude := by
        generalize term.magnitude = value at spellsMagnitude
        cases spellsMagnitude with
        | number spells =>
            exact filled_number spells
        | omitted =>
            simp [Filled]
      have filledLetter : Text.isBlank letter = false := by
        rcases isLetter with rfl | rfl <;> rfl
      refine (filledSign.append filledMagnitude).append ?_
      exact List.forall_mem_cons.mpr ⟨filledLetter, filled_number spellsIndex⟩

theorem filled_terms
    {leading : Bool}
    {terms : List Monomial}
    {text : List Char}
    (spells : SpellsTerms leading terms text) :
    Filled text := by
  induction spells with
  | nil =>
      simp [Filled]
  | cons spellsHead spellsRest inductionHypothesis =>
      exact (filled_monomial spellsHead).append inductionHypothesis

/-- A constraint is written without blanks, and has a relation to be written. -/
theorem filled_constraint
    {constraint : Constraint}
    {text : List Char}
    (spells : SpellsConstraint constraint text) :
    Filled text ∧ text ≠ [] := by
  cases spells with
  | parts spellsTerms spellsBound =>
      have filledSymbol : Filled (symbol constraint.relation) := by
        cases constraint.relation <;> simp [Filled, symbol] <;> decide
      have nonempty : symbol constraint.relation ≠ [] := by
        cases constraint.relation <;> simp [symbol]
      refine ⟨((filled_terms spellsTerms).append filledSymbol).append
        (filled_number spellsBound), ?_⟩
      simp [nonempty]

theorem length_spellsKeyword
    {keyword text : List Char}
    (spells : SpellsKeyword keyword text) :
    text.length = keyword.length := by
  rw [← spells, List.length_map]

/-- The lines of a problem are not empty and hold no blanks. -/
theorem filled_lines
    {problem : Problem}
    {lines : List (List Char)}
    (spells : problem.Spells lines)
    {line : List Char}
    (member : line ∈ lines) :
    Filled line ∧ line ≠ [] := by
  cases spells with
  | @lines objective keyword initializer first terminator others spellsObjective
      isInitializer spellsInitializer spellsFirst spellsOthers spellsTerminator =>
      rw [List.mem_cons, List.mem_cons, List.mem_append,
        List.mem_singleton] at member
      rcases member with rfl | rfl | inOthers | rfl
      · cases spellsObjective with
        | @parts keyword terms spellsKeyword spellsTerms =>
            have noBlank :
                problem.direction.keyword.all fun letter => !Text.isBlank letter := by
              cases problem.direction <;> decide
            have length := length_spellsKeyword spellsKeyword
            rw [Lexeme.length_keyword] at length
            refine ⟨(filled_keyword spellsKeyword noBlank).append
              (filled_terms spellsTerms), ?_⟩
            rintro empty
            rw [(List.append_eq_nil_iff.mp empty).1] at length
            cases length
      · obtain ⟨filled, nonempty⟩ := filled_constraint spellsFirst
        have noBlank : keyword.all fun letter => !Text.isBlank letter := by
          rw [initializers_eq] at isInitializer
          simp only [List.mem_cons, List.not_mem_nil, or_false] at isInitializer
          rcases isInitializer with rfl | rfl | rfl | rfl <;> decide
        exact ⟨(filled_keyword spellsInitializer noBlank).append filled,
          by simp [nonempty]⟩
      · obtain ⟨constraint, _, spellsConstraint⟩ :=
          exists_mem_of_forall₂ spellsOthers inOthers
        exact filled_constraint spellsConstraint
      · refine ⟨filled_keyword spellsTerminator (by decide), ?_⟩
        rintro rfl
        cases spellsTerminator

/-- Blanks that have been put in are taken out again. -/
theorem compact_padded
    {line padded : List Char}
    (isPadded : Padded line padded) :
    Text.compact padded = Text.compact line := by
  induction isPadded with
  | nil =>
      rfl
  | keep character rest inductionHypothesis =>
      rw [← List.singleton_append, Text.compact_append, inductionHypothesis,
        ← Text.compact_append, List.singleton_append]
  | insert blank sameLine rest inductionHypothesis =>
      rw [Text.compact, List.filter_cons_of_neg (by simp [blank])]
      exact inductionHypothesis

/-- A text on one line is its own characters with blanks inserted. -/
theorem padded_compact
    {text : List Char}
    (sameLine : '\n' ∉ text) :
    Padded (Text.compact text) text := by
  induction text with
  | nil =>
      exact .nil
  | cons character rest inductionHypothesis =>
      rw [List.mem_cons, not_or] at sameLine
      have behind := inductionHypothesis sameLine.2
      rw [Text.compact, List.filter_cons]
      split
      · exact .keep character behind
      · next blank =>
          exact .insert (by simpa using blank) (Ne.symm sameLine.1) behind

/-- No line is broken by the blanks that are put into it. -/
theorem lineFeed_padded
    {line padded : List Char}
    (isPadded : Padded line padded)
    (noLineFeed : '\n' ∉ line) :
    '\n' ∉ padded := by
  induction isPadded with
  | nil =>
      exact noLineFeed
  | keep character rest inductionHypothesis =>
      rw [List.mem_cons, not_or] at noLineFeed ⊢
      exact ⟨noLineFeed.1, inductionHypothesis noLineFeed.2⟩
  | insert blank sameLine rest inductionHypothesis =>
      rw [List.mem_cons, not_or]
      exact ⟨sameLine.symm, inductionHypothesis noLineFeed⟩

theorem lineFeed_of_filled
    {line : List Char}
    (filled : Filled line) :
    '\n' ∉ line := by
  intro member
  exact absurd (filled '\n' member) (by decide)

/-- Lines that have been laid out are found again. -/
theorem normalLines_laid
    {lines layout : List (List Char)}
    (laid : Laid lines layout)
    (filled : ∀ line ∈ lines, Filled line ∧ line ≠ []) :
    Formulation.normalLines layout = lines.map String.ofList ∧
      ∀ piece ∈ layout, '\n' ∉ piece := by
  induction laid with
  | nil =>
      simp [Formulation.normalLines]
  | @line line padded lines layout head rest inductionHypothesis =>
      rw [List.forall_mem_cons] at filled
      obtain ⟨⟨lineFilled, nonempty⟩, restFilled⟩ := filled
      obtain ⟨normal, noLineFeed⟩ := inductionHypothesis restFilled
      have compact : Text.compact padded = line := by
        rw [compact_padded head, Text.compact_eq_self lineFilled]
      constructor
      · rw [← List.singleton_append, Formulation.normalLines_append, normal]
        simp [Formulation.normalLines, compact, nonempty]
      · rw [List.forall_mem_cons]
        exact ⟨lineFeed_padded head (lineFeed_of_filled lineFilled), noLineFeed⟩
  | @blankLine padded lines layout head rest inductionHypothesis =>
      obtain ⟨normal, noLineFeed⟩ := inductionHypothesis filled
      have compact : Text.compact padded = [] := compact_padded head
      constructor
      · rw [← List.singleton_append, Formulation.normalLines_append, normal]
        simp [Formulation.normalLines, compact]
      · rw [List.forall_mem_cons]
        exact ⟨lineFeed_padded head List.not_mem_nil, noLineFeed⟩

theorem layout_ne_nil
    {lines layout : List (List Char)}
    (laid : Laid lines layout)
    (nonempty : lines ≠ []) :
    layout ≠ [] := by
  cases laid with
  | nil =>
      exact nonempty
  | line head rest =>
      exact List.cons_ne_nil _ _
  | blankLine head rest =>
      exact List.cons_ne_nil _ _

/--
The normal lines of the text of a problem start with the lines it has been laid
out from.
-/
theorem linesOfText_renders
    {problem : Problem}
    {text : String}
    (renders : problem.Renders text.toList) :
    ∃ lines behind, problem.Spells lines ∧
      Formulation.linesOfText text "\n" =
        .ok (lines.map String.ofList ++ behind) := by
  have cut : ∀ lines layout, problem.Spells lines → Laid lines layout →
      Text.splitWhere (· == '\n') (['\n'].intercalate layout) = layout ∧
        Formulation.normalLines layout = lines.map String.ofList := by
    intro lines layout spells laid
    have nonempty : lines ≠ [] := by
      cases spells
      exact List.cons_ne_nil _ _
    obtain ⟨normal, noLineFeed⟩ :=
      normalLines_laid laid fun line member => filled_lines spells member
    refine ⟨Text.splitWhere_intercalate rfl (layout_ne_nil laid nonempty) ?_,
      normal⟩
    intro piece member character inPiece
    rw [beq_eq_false_iff_ne]
    rintro rfl
    exact noLineFeed piece member inPiece
  have delimiter : "\n".toList = ['\n'] := rfl
  rw [Formulation.linesOfText, if_neg (by decide), delimiter,
    Text.splitOn_singleton]
  generalize text.toList = characters at renders
  cases renders with
  | @ended lines layout spells laid =>
      obtain ⟨pieces, normal⟩ := cut lines layout spells laid
      refine ⟨lines, [], spells, ?_⟩
      rw [pieces, normal, List.append_nil]
  | @goesOn lines layout spells laid behind =>
      obtain ⟨pieces, normal⟩ := cut lines layout spells laid
      refine ⟨lines, Formulation.normalLines (Text.splitWhere (· == '\n') behind),
        spells, ?_⟩
      rw [Text.splitWhere_append_separator rfl, pieces, Formulation.normalLines_append, normal]

end LinearProgram.Grammar
