import LinearProgram.Dump.Parser
import LinearProgram.Proofs.Problem.Shape
import LinearProgram.Proofs.Text.Lines
import LinearProgram.Proofs.Traversal

namespace LinearProgram

/-!
# Reading a dump part by part

Reading a dump gives some matrices exactly if each section gives the part of
the matrices that it is named for and the parts fit together
(`ofCharacters_eq_ok_iff`). So whatever is read is representable: it has a
consistent shape, no rows without columns, and no number beyond 64 bits.
-/

namespace Matrices

/--
Matrices that a dump can hold: they fit together, and no row vanishes for want
of columns.
-/
structure Representable (matrices : Matrices) : Prop where
  size : matrices.HasSize matrices.b.length matrices.c.length
  restrictionCount :
    ∀ restrictions ∈ matrices.varConstr, restrictions.length = matrices.c.length
  rowsVisible : matrices.a = [] ∨ matrices.c ≠ []

/-- The numbers of a problem, and the positions of its restrictions, fit 64 bits. -/
structure FitsWords (matrices : Matrices) : Prop where
  coefficients : ∀ row ∈ matrices.a, ∀ entry ∈ row,
    Numeral.minValue ≤ entry ∧ entry ≤ Numeral.maxValue
  bounds : ∀ entry ∈ matrices.b, Numeral.minValue ≤ entry ∧ entry ≤ Numeral.maxValue
  objective : ∀ entry ∈ matrices.c,
    Numeral.minValue ≤ entry ∧ entry ≤ Numeral.maxValue
  restrictionPositions :
    ∀ restrictions ∈ matrices.varConstr, restrictions.length ≤ Numeral.maxIndex

end Matrices

namespace Dump

section Codes

variable {α : Type} {name : MatrixName} {codeOf : α → Int}
  {ofCode? : Int → Option α}

/-- A code is decoded to the one word that it stands for. -/
theorem decode_eq_ok_iff
    (inverse : ∀ code word, ofCode? code = some word ↔ code = codeOf word)
    {code : Int}
    {word : α} :
    decode name ofCode? code = .ok word ↔ code = codeOf word := by
  rw [← inverse, decode]
  cases ofCode? code <;> simp

theorem mapM_decode_eq_ok_iff
    (inverse : ∀ code word, ofCode? code = some word ↔ code = codeOf word)
    {codes : List Int}
    {words : List α} :
    codes.mapM (decode name ofCode?) = .ok words ↔ codes = words.map codeOf := by
  rw [mapM_eq_ok_iff]
  simp only [decode_eq_ok_iff inverse]
  rw [← List.forall₂_map_right_iff (f := codeOf) (R := Eq), List.forall₂_eq_eq_eq]

end Codes

/-- No two relations have one code, and no other code is a relation. -/
theorem relation_ofCode?_iff (code : Int) (relation : Relation) :
    Relation.ofCode? code = some relation ↔ code = relation.code := by
  unfold Relation.ofCode?
  constructor
  · intro found
    split at found
    · cases found
      assumption
    · split at found
      · cases found
        assumption
      · split at found
        · cases found
          assumption
        · cases found
  · rintro rfl
    exact Relation.ofCode?_code relation

theorem direction_ofCode?_iff (code : Int) (direction : Direction) :
    Direction.ofCode? code = some direction ↔ code = direction.code := by
  unfold Direction.ofCode?
  constructor
  · intro found
    split at found
    · cases found
      assumption
    · split at found
      · cases found
        assumption
      · cases found
  · rintro rfl
    exact Direction.ofCode?_code direction

/-- The direction is read exactly if its section holds its code alone. -/
theorem directionOfSection_eq_ok_iff
    {text : List Char}
    {direction : Direction} :
    directionOfSection text = .ok direction ↔
      vectorOfSection .minMax text = .ok [direction.code] := by
  unfold directionOfSection
  rw [bind_eq_ok_iff]
  constructor
  · rintro ⟨values, read, decoded⟩
    split at decoded
    · next code =>
        rw [decode_eq_ok_iff direction_ofCode?_iff] at decoded
        rw [read, decoded]
    · cases decoded
  · intro read
    exact ⟨_, read, (decode_eq_ok_iff direction_ofCode?_iff).mpr rfl⟩

/-- There is no misfit among rows of one width. -/
theorem firstMisfit?_eq_none_iff
    {width position : Nat}
    {rows : List (List Int)} :
    firstMisfit? width position rows = none ↔ ∀ row ∈ rows, row.length = width := by
  induction rows generalizing position with
  | nil =>
      simp [firstMisfit?]
  | cons row rest inductionHypothesis =>
      by_cases fits : row.length = width
      · simp [firstMisfit?, fits, inductionHypothesis]
      · simp [firstMisfit?, fits]

/-- No disagreement is found exactly if the matrices fit together. -/
theorem shapeError?_eq_none_iff
    {matrices : Matrices} :
    shapeError? matrices = none ↔
      matrices.HasSize matrices.b.length matrices.c.length ∧
        ∀ restrictions ∈ matrices.varConstr,
          restrictions.length = matrices.c.length := by
  unfold shapeError?
  constructor
  · intro agreement
    split at agreement
    · cases agreement
    · next rowCount =>
        split at agreement
        · cases agreement
        · next noMisfit =>
            split at agreement
            · cases agreement
            · next relationCount =>
                refine ⟨⟨not_not.mp rowCount, rfl, not_not.mp relationCount,
                  firstMisfit?_eq_none_iff.mp noMisfit, rfl⟩, ?_⟩
                intro restrictions member
                rw [Option.mem_def] at member
                simp only [member] at agreement
                split at agreement
                · cases agreement
                · next restrictionCount =>
                    exact not_not.mp restrictionCount
  · rintro ⟨size, restrictionCount⟩
    have noMisfit : firstMisfit? matrices.c.length 1 matrices.a = none :=
      firstMisfit?_eq_none_iff.mpr size.rowWidth
    simp only [size.rowCount, size.relationCount, noMisfit, ne_eq,
      not_true_eq_false, if_false]
    cases restrictions : matrices.varConstr with
    | none =>
        rfl
    | some restrictions' =>
        simp [restrictionCount _ restrictions]

/--
A dump holds some matrices exactly if its sections hold their parts and the
parts fit together.
-/
theorem ofCharacters_eq_ok_iff
    {text : List Char}
    {dual : Bool}
    {matrices : Matrices} :
    ofCharacters text dual = .ok matrices ↔
      rowsOfSection .a text = .ok matrices.a ∧
      vectorOfSection .b text = .ok matrices.b ∧
      vectorOfSection .c text = .ok matrices.c ∧
      vectorOfSection .eqin text = .ok matrices.eqinCodes ∧
      vectorOfSection .minMax text = .ok matrices.minMax ∧
      restrictionsOf dual text = .ok matrices.varConstr ∧
      shapeError? matrices = none := by
  unfold ofCharacters
  simp only [bind_eq_ok_iff, directionOfSection_eq_ok_iff,
    mapM_decode_eq_ok_iff relation_ofCode?_iff]
  constructor
  · rintro ⟨a, aRead, b, bRead, c, cRead, codes, codesRead, eqin, codesShape,
      direction, directionRead, varConstr, restrictionsRead, checked⟩
    split at checked
    · cases checked
    · next agreement =>
        cases checked
        subst codesShape
        exact ⟨aRead, bRead, cRead, codesRead, directionRead, restrictionsRead,
          agreement⟩
  · rintro ⟨aRead, bRead, cRead, codesRead, directionRead, restrictionsRead,
      agreement⟩
    refine ⟨_, aRead, _, bRead, _, cRead, _, codesRead, _, rfl, _, directionRead, _,
      restrictionsRead, ?_⟩
    split
    · next error found =>
        rw [agreement] at found
        cases found
    · rfl

theorem valueOfWord_eq_ok_iff
    {name : MatrixName}
    {word : List Char}
    {value : Int} :
    valueOfWord name word = .ok value ↔ Numeral.value? word = some value := by
  unfold valueOfWord
  cases Numeral.value? word <;> simp

/-- A value that has been read fits 64 bits. -/
theorem inRange_of_value?
    {word : List Char}
    {value : Int}
    (read : Numeral.value? word = some value) :
    Numeral.minValue ≤ value ∧ value ≤ Numeral.maxValue := by
  have inRange := (Option.filter_eq_some_iff.mp read).2
  simpa using inRange

/-- The values on a line fit 64 bits, one for each word. -/
theorem rowOfLine_spec
    {name : MatrixName}
    {line : List Char}
    {row : List Int}
    (read : rowOfLine name line = .ok row) :
    row.length = (Text.words line).length ∧
      ∀ entry ∈ row, Numeral.minValue ≤ entry ∧ entry ≤ Numeral.maxValue := by
  refine ⟨(mapM_eq_ok_iff.mp read).length_eq.symm, ?_⟩
  intro entry member
  obtain ⟨word, _, wordRead⟩ := exists_mem_of_mapM_eq_ok read member
  exact inRange_of_value? (valueOfWord_eq_ok_iff.mp wordRead)

/-- Every row of a section has an entry, since its line is not blank. -/
theorem rowsOfSection_spec
    {name : MatrixName}
    {text : List Char}
    {rows : List (List Int)}
    (read : rowsOfSection name text = .ok rows)
    {row : List Int}
    (member : row ∈ rows) :
    row ≠ [] ∧
      ∀ entry ∈ row, Numeral.minValue ≤ entry ∧ entry ≤ Numeral.maxValue := by
  obtain ⟨content, _, rowsRead⟩ := bind_eq_ok_iff.mp read
  obtain ⟨line, lineMember, lineRead⟩ := exists_mem_of_mapM_eq_ok rowsRead member
  obtain ⟨rowLength, inRange⟩ := rowOfLine_spec lineRead
  have filled : line.all Text.isBlank = false := by
    simpa using (List.mem_filter.mp lineMember).2
  refine ⟨?_, inRange⟩
  rintro rfl
  exact Text.words_ne_nil filled (List.eq_nil_of_length_eq_zero rowLength.symm)

/-- What is read of a vector fits a word of 64 bits. -/
theorem vectorOfSection_spec
    {name : MatrixName}
    {text : List Char}
    {entries : List Int}
    (read : vectorOfSection name text = .ok entries)
    {entry : Int}
    (member : entry ∈ entries) :
    Numeral.minValue ≤ entry ∧ entry ≤ Numeral.maxValue := by
  obtain ⟨content, _, entriesRead⟩ := bind_eq_ok_iff.mp read
  obtain ⟨line, _, lineRead⟩ := exists_mem_of_mapM_eq_ok entriesRead member
  obtain ⟨values, valuesRead, single⟩ := bind_eq_ok_iff.mp lineRead
  split at single
  · cases single
    exact (rowOfLine_spec valuesRead).2 entry List.mem_cons_self
  · cases single

/-- A line that carries a restriction carries an index that fits 64 bits. -/
theorem le_maxIndex_of_restrictionOfLine?
    {index : Nat}
    {line : List Char}
    {restriction : Restriction}
    (read : restrictionOfLine? index line = some restriction) :
    index ≤ Numeral.maxIndex := by
  unfold restrictionOfLine? at read
  dsimp only at read
  split at read
  · cases read
  · split at read
    · next numeralRead =>
        simpa using (Option.filter_eq_some_iff.mp numeralRead).2
    · cases read

/-- The last of the restrictions that are read has an index that fits 64 bits. -/
theorem restrictionsOfLines_spec
    {index : Nat}
    {lines : List (List Char)}
    {restrictions : List Restriction}
    (read : restrictionsOfLines index lines = .ok restrictions)
    (nonempty : restrictions ≠ []) :
    index + restrictions.length ≤ Numeral.maxIndex + 1 := by
  induction lines generalizing index restrictions with
  | nil =>
      cases read
      exact absurd rfl nonempty
  | cons line rest inductionHypothesis =>
      rw [restrictionsOfLines] at read
      split at read
      · cases read
      · next restriction lineRead =>
          obtain ⟨others, othersRead, shape⟩ := bind_eq_ok_iff.mp read
          cases shape
          have headFits := le_maxIndex_of_restrictionOfLine? lineRead
          cases others with
          | nil =>
              simpa using headFits
          | cons next behind =>
              have restFits :=
                inductionHypothesis othersRead (List.cons_ne_nil next behind)
              simp only [List.length_cons] at restFits ⊢
              omega

/-- Restrictions are read of a dual alone, and no more of them than an index can number. -/
theorem restrictionsOf_spec
    {dual : Bool}
    {text : List Char}
    {varConstr : Option (List Restriction)}
    (read : restrictionsOf dual text = .ok varConstr) :
    varConstr.isSome = dual ∧
      ∀ restrictions ∈ varConstr, restrictions.length ≤ Numeral.maxIndex := by
  unfold restrictionsOf at read
  split at read
  · next isDual =>
      cases linesRead : restrictionsOfLines 1 (restrictionTexts text) with
      | error error =>
          rw [linesRead] at read
          cases read
      | ok found =>
          rw [linesRead] at read
          cases read
          refine ⟨isDual.symm, ?_⟩
          intro restrictions member
          rw [Option.mem_def, Option.some.injEq] at member
          subst member
          cases found with
          | nil =>
              exact Nat.zero_le _
          | cons first others =>
              have lastFits :=
                restrictionsOfLines_spec linesRead (List.cons_ne_nil first others)
              omega
  · next notDual =>
      cases read
      exact ⟨by simpa using notDual, nofun⟩

/-- Whatever is read from a dump is representable and fits 64 bits. -/
theorem representable_of_ofCharacters
    {text : List Char}
    {dual : Bool}
    {matrices : Matrices}
    (read : ofCharacters text dual = .ok matrices) :
    matrices.isDual = dual ∧ matrices.Representable ∧ matrices.FitsWords := by
  obtain ⟨aRead, bRead, cRead, _, _, restrictionsRead, agreement⟩ :=
    ofCharacters_eq_ok_iff.mp read
  obtain ⟨size, restrictionCount⟩ := shapeError?_eq_none_iff.mp agreement
  obtain ⟨isDual, restrictionPositions⟩ := restrictionsOf_spec restrictionsRead
  refine ⟨isDual, ⟨size, restrictionCount, ?_⟩, ?_, ?_, ?_, restrictionPositions⟩
  · cases rows : matrices.a with
    | nil =>
        exact .inl rfl
    | cons row rest =>
        have member : row ∈ matrices.a := by
          simp [rows]
        right
        intro noColumns
        have rowLength := size.rowWidth row member
        rw [noColumns] at rowLength
        exact (rowsOfSection_spec aRead member).1
          (List.eq_nil_of_length_eq_zero rowLength)
  · intro row member
    exact (rowsOfSection_spec aRead member).2
  · intro entry member
    exact vectorOfSection_spec bRead member
  · intro entry member
    exact vectorOfSection_spec cRead member

end Dump

end LinearProgram
