import LinearProgram.Line.Parts
import LinearProgram.Proofs.Line.Interior

namespace LinearProgram

/-!
# Where the tokens of a line start

A line may be cut in front of each of its characters. For directions, variables
and signs, the cuts at which a token starts can be told from the text before
and behind the cut alone, without scanning. The invariant of the scan is that
no direction keyword straddles the boundary between two lexemes.
-/

/--
The cuts of a text in front of each of its characters, given the text before it.
-/
def cutsFrom (before : List Char) : List Char → List (List Char × List Char)
  | [] => []
  | character :: rest =>
    (before, character :: rest) :: cutsFrom (before ++ [character]) rest

/-- The cuts of a text in front of each of its characters. -/
def cuts (text : List Char) : List (List Char × List Char) :=
  cutsFrom [] text

/-- The cuts of a text are all ways to divide it but that behind its end. -/
theorem mem_cutsFrom_iff
    {before text : List Char}
    {cut : List Char × List Char} :
    cut ∈ cutsFrom before text ↔
      ∃ passed, cut.1 = before ++ passed ∧ passed ++ cut.2 = text ∧ cut.2 ≠ [] := by
  induction text generalizing before with
  | nil =>
      simp only [cutsFrom, List.not_mem_nil, List.append_eq_nil_iff, false_iff]
      rintro ⟨_, _, ⟨_, noText⟩, text⟩
      exact text noText
  | cons character rest inductionHypothesis =>
      rw [cutsFrom, List.mem_cons, inductionHypothesis]
      constructor
      · rintro (rfl | ⟨passed, isBefore, isBehind, text⟩)
        · exact ⟨[], by simp, rfl, by simp⟩
        · exact ⟨character :: passed, by simp [isBefore], by simp [isBehind], text⟩
      · rintro ⟨passed, isBefore, isBehind, text⟩
        cases passed with
        | nil =>
            exact .inl (Prod.ext (by simpa using isBefore) isBehind)
        | cons first others =>
            injection isBehind with same others
            subst same
            exact .inr ⟨_, by simpa using isBefore, others, text⟩

theorem mem_cuts_iff
    {text : List Char}
    {cut : List Char × List Char} :
    cut ∈ cuts text ↔ cut.1 ++ cut.2 = text ∧ cut.2 ≠ [] := by
  rw [cuts, mem_cutsFrom_iff]
  simp

/-- Cuts that are not looked for may be passed over. -/
theorem filter_cutsFrom_skip
    (holds : List Char × List Char → Bool)
    (before text : List Char)
    (count : Nat)
    (passed : ∀ offset < count,
      holds (before ++ text.take offset, text.drop offset) = false) :
    (cutsFrom before text).filter holds =
      (cutsFrom (before ++ text.take count) (text.drop count)).filter holds := by
  induction text generalizing before count with
  | nil =>
      simp [cutsFrom]
  | cons character rest inductionHypothesis =>
      cases count with
      | zero =>
          simp
      | succ count =>
          have atHead := passed 0 (Nat.succ_pos count)
          have behind := inductionHypothesis (before ++ [character]) count
            fun offset within => by
              simpa using passed (offset + 1) (Nat.succ_lt_succ within)
          simp only [List.take_zero, List.append_nil, List.drop_zero] at atHead
          rw [cutsFrom, List.filter_cons_of_neg (by simp [atHead]), behind]
          simp

theorem byteLength_append (first second : List Char) :
    byteLength (first ++ second) = byteLength first + byteLength second := by
  induction first with
  | nil =>
      simp [byteLength]
  | cons character rest inductionHypothesis =>
      simp [byteLength, inductionHypothesis, Nat.add_assoc]

/--
What holds at the end of a text and in front of each blank and lexeme holds of
all texts.
-/
theorem scan_induction
    {motive : List Char → List Char → Prop}
    (finish : ∀ before, motive before [])
    (blank : ∀ before first rest, Text.isBlank first →
      motive (before ++ [first]) rest → motive before (first :: rest))
    (lexeme : ∀ before first rest, Text.isBlank first = false →
      motive (before ++ first :: rest.take (Lexeme.ofChars first rest).extra)
        (rest.drop (Lexeme.ofChars first rest).extra) →
      motive before (first :: rest))
    (before text : List Char) :
    motive before text := by
  induction length : text.length using Nat.strongRecOn generalizing before text with
  | ind size inductionHypothesis =>
      cases text with
      | nil =>
          exact finish before
      | cons first rest =>
          rw [List.length_cons] at length
          cases isBlank : Text.isBlank first with
          | true =>
              exact blank before first rest isBlank
                (inductionHypothesis rest.length (by omega) _ rest rfl)
          | false =>
              refine lexeme before first rest isBlank
                (inductionHypothesis _ ?_ _ _ rfl)
              rw [List.length_drop]
              omega

namespace Lexeme

/-- No direction keyword starts before a boundary and ends behind it. -/
def Boundary (before after : List Char) : Prop :=
  ∀ earlier later, before = earlier ++ later → later ≠ [] → later.length < 3 →
    startsDirection (later ++ after) = false

/-- Nothing goes on at the start of a text. -/
theorem Boundary.start (text : List Char) : Boundary [] text := by
  intro earlier later split nonempty
  have noText := (List.append_eq_nil_iff.mp split.symm).2
  exact absurd noText nonempty

/-- A direction starts where one of the two keywords does. -/
theorem startsDirection_iff
    {text : List Char} :
    startsDirection text ↔
      ∃ direction : Direction, startsWith direction.keyword text := by
  rw [startsDirection, Bool.or_eq_true]
  constructor
  · rintro (max | min)
    · exact ⟨.max, max⟩
    · exact ⟨.min, min⟩
  · rintro ⟨direction, starts⟩
    cases direction with
    | max =>
        exact .inl starts
    | min =>
        exact .inr starts

theorem startsWith_keyword_eq_false
    {text : List Char}
    (noDirection : startsDirection text = false)
    (direction : Direction) :
    startsWith direction.keyword text = false := by
  rw [← Bool.not_eq_true, startsDirection_iff] at noDirection
  rw [← Bool.not_eq_true]
  exact fun starts => noDirection ⟨direction, starts⟩

/-- A direction keyword holds no blank. -/
theorem startsDirection_over_blank
    (passed : List Char)
    (short : passed.length < 3)
    {first : Char}
    (blank : Text.isBlank first)
    (rest : List Char) :
    startsDirection (passed ++ first :: rest) = false := by
  rw [← Bool.not_eq_true, startsDirection_iff]
  rintro ⟨direction, starts⟩
  have startsBehind := startsWith_drop starts passed.length
  rw [List.drop_left] at startsBehind
  have inKeyword : passed.length < direction.keyword.length := by
    rwa [length_keyword]
  rw [List.drop_eq_getElem_cons inKeyword, startsWith_cons,
    Text.toLower_of_isBlank blank, Bool.and_eq_true, beq_iff_eq] at startsBehind
  have noBlank : direction.keyword.all fun letter => !Text.isBlank letter := by
    cases direction <;> decide
  have filled := List.all_eq_true.mp noBlank _ (List.getElem_mem inKeyword)
  simp [← startsBehind.1, blank] at filled

/-- Nothing goes on behind a blank. -/
theorem Boundary.blank
    {first : Char}
    (blank : Text.isBlank first)
    (before rest : List Char) :
    Boundary (before ++ [first]) rest := by
  intro earlier later split nonempty short
  rcases List.append_eq_append_iff.mp split
      with ⟨passed, _, split⟩ | ⟨passed, _, rfl⟩
  · obtain ⟨rfl, rfl⟩ : passed = [] ∧ later = [first] := by
      simpa [List.append_eq_cons_iff, nonempty, eq_comm] using split.symm
    exact startsDirection_over_blank [] (by simp) blank rest
  · rw [List.append_assoc]
    rw [List.length_append] at short
    exact startsDirection_over_blank passed (by omega) blank rest

/-- A lexeme that starts with a direction keyword holds all of it. -/
theorem length_of_startsDirection
    {first : Char}
    {rest : List Char}
    (starts : startsDirection (first :: rest)) :
    (first :: rest.take (ofChars first rest).extra).length = 3 := by
  obtain ⟨direction, starts⟩ := startsDirection_iff.mp starts
  have long := (startsWith_iff.mp starts).length_le
  rw [length_keyword, List.length_map, List.length_cons] at long
  rw [ofChars_keyword (keyword?_of_startsWith_direction starts), List.length_cons,
    List.length_take_of_le (by simpa using long)]

/-- A lexeme and what is behind it make up the text. -/
theorem take_append_drop_extra
    (first : Char)
    (rest : List Char) :
    (first :: rest.take (ofChars first rest).extra) ++
      rest.drop (ofChars first rest).extra =
      first :: rest := by
  rw [List.cons_append, List.take_append_drop]

/-- Behind a lexeme no direction that has started before goes on. -/
theorem Boundary.lexeme
    {before : List Char}
    {first : Char}
    {rest : List Char}
    (boundary : Boundary before (first :: rest)) :
    Boundary (before ++ first :: rest.take (ofChars first rest).extra)
      (rest.drop (ofChars first rest).extra) := by
  intro earlier later split nonempty short
  have whole := take_append_drop_extra first rest
  rcases List.append_eq_append_iff.mp split
      with ⟨passed, _, split⟩ | ⟨passed, isBefore, rfl⟩
  · cases passed with
    | nil =>
        -- The whole lexeme is too short for a direction keyword.
        rw [List.nil_append] at split
        rw [← split, whole, ← Bool.not_eq_true]
        intro starts
        rw [← split, length_of_startsDirection starts] at short
        omega
    | cons head skipped =>
        rw [List.cons_append, List.cons_eq_cons] at split
        replace split := split.2
        have isBehind : later ++ rest.drop (ofChars first rest).extra =
            rest.drop skipped.length := by
          have dropped :
              (skipped ++ (later ++ rest.drop (ofChars first rest).extra)).drop
                  skipped.length =
                later ++ rest.drop (ofChars first rest).extra :=
            List.drop_left
          rw [← dropped, ← List.append_assoc, ← split, List.take_append_drop]
        have within : skipped.length < (ofChars first rest).extra := by
          have lengths := congrArg List.length split
          rw [List.length_append, List.length_take] at lengths
          have filled := List.length_pos_iff.mpr nonempty
          omega
        rw [isBehind]
        exact startsDirection_interior within
  · rw [List.append_assoc, whole]
    cases passed with
    | nil =>
        rw [List.nil_append, ← Bool.not_eq_true]
        intro starts
        rw [List.nil_append, length_of_startsDirection starts] at short
        omega
    | cons head skipped =>
        rw [List.length_append] at short
        exact boundary earlier (head :: skipped) isBefore (by simp) (by omega)

end Lexeme

/--
A condition on cuts that locates tokens of certain kinds: it holds where such a
token starts, and neither in front of blanks nor inside a lexeme.
-/
structure Locates
    (isKind : TokenKind → Bool)
    (holds : List Char × List Char → Bool) : Prop where
  finish : isKind .finish = false
  blank (before : List Char) {first : Char} (rest : List Char) :
    Text.isBlank first → holds (before, first :: rest) = false
  head {before : List Char} {first : Char} {rest : List Char} :
    Lexeme.Boundary before (first :: rest) →
      holds (before, first :: rest) = isKind (Lexeme.ofChars first rest).kind
  interior (before : List Char) {first : Char} {rest : List Char} {offset : Nat} :
    offset < (Lexeme.ofChars first rest).extra →
      holds (before ++ first :: rest.take offset, rest.drop offset) = false

namespace Lexeme

/-- Whether a direction keyword starts at a cut. -/
def directionAt (direction : Direction) (cut : List Char × List Char) : Bool :=
  startsWith direction.keyword cut.2

/-- Whether a variable starts at a cut, which the last letter of `max` does not. -/
def variableAt (cut : List Char × List Char) : Bool :=
  startsVariable cut.2 && !(['m', 'a'].isSuffixOf (cut.1.map Char.toLower))

/-- Whether a sign stands behind a cut. -/
def signAt (cut : List Char × List Char) : Bool :=
  cut.2.head?.any isSign

/-- A direction keyword is never inside another lexeme, so its cuts locate it. -/
theorem locates_direction (direction : Direction) :
    Locates (· == .direction direction) (directionAt direction) where
  finish := rfl
  blank before first rest blank :=
    startsWith_keyword_eq_false
      (startsDirection_over_blank [] (by simp) blank rest) direction
  head boundary := by
    rw [Bool.eq_iff_iff, beq_iff_eq, direction_ofChars_iff]
    rfl
  interior before first rest offset within :=
    startsWith_keyword_eq_false (startsDirection_interior within) direction

/-- A variable is never inside another lexeme, so its cuts locate it. -/
theorem locates_variable : Locates (· == .variable) variableAt where
  finish := rfl
  blank before first rest blank := by
    have noVariable : startsVariable (first :: rest) = false := by
      rw [← Bool.not_eq_true]
      intro starts
      rcases (startsVariable_iff.mp starts).1 with rfl | rfl <;> cases blank
    simp [variableAt, noVariable]
  head {before first rest} boundary := by
    rw [Bool.eq_iff_iff, beq_iff_eq, variable_ofChars_iff, variableAt,
      Bool.and_eq_true, and_iff_left_iff_imp]
    intro starts
    rw [Bool.not_eq_true', ← Bool.not_eq_true, List.isSuffixOf_iff_suffix]
    rintro ⟨lowered, split⟩
    obtain ⟨earlier, letters, rfl, _, isMa⟩ := List.map_eq_append_iff.mp split.symm
    obtain ⟨letterM, letters, rfl, isM, behindM⟩ := List.map_eq_cons_iff.mp isMa
    obtain ⟨letterA, letters, rfl, isA, behindA⟩ := List.map_eq_cons_iff.mp behindM
    obtain rfl := List.map_eq_nil_iff.mp behindA
    have noDirection := boundary earlier [letterM, letterA] rfl (by simp) (by simp)
    have startsMax : startsWith Direction.max.keyword
        (letterM :: letterA :: first :: rest) := by
      simp [Direction.keyword, startsWith_cons, isM, isA,
        toLower_of_startsVariable starts]
    exact absurd startsMax
      (Bool.not_eq_true _ ▸ startsWith_keyword_eq_false noDirection .max)
  interior before first rest offset within := by
    rw [variableAt, ← Bool.not_eq_true, Bool.and_eq_true]
    rintro ⟨starts, notMax⟩
    obtain ⟨isMax, rfl⟩ := startsVariable_interior within starts
    have startsMax : startsWith Direction.max.keyword (first :: rest) :=
      direction_ofChars_iff.mp (by rw [isMax])
    obtain ⟨_, _, same, isM, startsBehind⟩ := exists_of_startsWith startsMax
    cases same
    obtain ⟨second, behind, rfl, isA, _⟩ := exists_of_startsWith startsBehind
    have isMa : ['m', 'a'].isSuffixOf (before.map Char.toLower ++ ['m', 'a']) :=
      List.isSuffixOf_iff_suffix.mpr (List.suffix_append _ _)
    simp [isM, isA, isMa] at notMax

/-- A sign is never inside another lexeme, so its cuts locate it. -/
theorem locates_sign : Locates TokenKind.isSign signAt where
  finish := rfl
  blank before first rest blank := by
    change isSign first = false
    rw [← Bool.not_eq_true, isSign, isMinus]
    intro sign
    simp only [Bool.or_eq_true, beq_iff_eq, or_assoc] at sign
    rcases sign with rfl | rfl | rfl | rfl <;> cases blank
  head boundary := by
    simp [signAt, isSign_ofChars]
  interior before first rest offset within := by
    obtain ⟨character, behind, shape, interior⟩ := interior_ofChars within
    rw [signAt, shape]
    change isSign character = false
    cases interior with
    | equal isRelation only symbol =>
        subst symbol
        decide
    | digit digit =>
        exact isSign_of_isAlphanumeric (isAlphanumeric_of_isDigit digit)
    | letter letter noVariable noDirection =>
        rcases letter with alphabetic | rfl
        · exact isSign_of_isAlphanumeric (isAlphanumeric_of_isAlphabetic alphabetic)
        · decide
    | keyword letter noDirection last =>
        rcases letter with alphabetic | rfl
        · exact isSign_of_isAlphanumeric (isAlphanumeric_of_isAlphabetic alphabetic)
        · decide

end Lexeme

end LinearProgram
