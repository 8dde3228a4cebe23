import LinearProgram.Proofs.Dump.Layout
import LinearProgram.Proofs.Dump.Parts

namespace LinearProgram.Dump

/-!
# Writing and reading are inverse to each other

The matrices that some dump holds are those that their own dump holds, and they
are exactly the representable ones (`read_write_iff`).
-/

/-- The sections of a dump and the restriction lines, one behind the other. -/
theorem characters_eq (matrices : Matrices) :
    characters matrices =
      sectionText .a (matrices.a.map rowText) ++
        (vectorSection .b matrices.b ++
          (vectorSection .c matrices.c ++
            (vectorSection .eqin matrices.eqinCodes ++
              (vectorSection .minMax matrices.minMax ++
                restrictionLines 1 (matrices.varConstr.getD []))))) := by
  simp [characters]

/-- The codes of relations can be read back. -/
theorem eqinCodes_inRange
    (matrices : Matrices)
    {code : Int}
    (member : code ∈ matrices.eqinCodes) :
    Numeral.minValue ≤ code ∧ code ≤ Numeral.maxValue := by
  obtain ⟨relation, _, rfl⟩ := List.mem_map.mp member
  cases relation <;> decide

theorem minMax_inRange
    (matrices : Matrices)
    {code : Int}
    (member : code ∈ matrices.minMax) :
    Numeral.minValue ≤ code ∧ code ≤ Numeral.maxValue := by
  rw [Matrices.minMax, List.mem_singleton] at member
  subst member
  cases matrices.direction <;> decide

/-- The sections of a dump hold the parts of the matrices. -/
theorem sections_characters
    {matrices : Matrices}
    (representable : matrices.Representable)
    (fits : matrices.FitsWords) :
    rowsOfSection .a (characters matrices) = .ok matrices.a ∧
      vectorOfSection .b (characters matrices) = .ok matrices.b ∧
      vectorOfSection .c (characters matrices) = .ok matrices.c ∧
      vectorOfSection .eqin (characters matrices) = .ok matrices.eqinCodes ∧
      vectorOfSection .minMax (characters matrices) = .ok matrices.minMax := by
  have nonempty : ∀ row ∈ matrices.a, row ≠ [] := by
    rintro row member rfl
    rcases representable.rowsVisible with noRows | someColumns
    · rw [noRows] at member
      cases member
    · exact someColumns
        (List.eq_nil_of_length_eq_zero (representable.size.rowWidth [] member).symm)
  refine ⟨?_, ?_, ?_, ?_, ?_⟩
  · rw [characters_eq]
    exact rowsOfSection_sectionText nonempty fits.coefficients
  · rw [characters_eq, vectorOfSection_sectionText_of_other (by decide)]
    exact vectorOfSection_vectorSection fits.bounds
  · rw [characters_eq, vectorOfSection_sectionText_of_other (by decide),
      vectorOfSection_vectorSection_of_other (by decide)]
    exact vectorOfSection_vectorSection fits.objective
  · rw [characters_eq, vectorOfSection_sectionText_of_other (by decide),
      vectorOfSection_vectorSection_of_other (by decide),
      vectorOfSection_vectorSection_of_other (by decide)]
    exact vectorOfSection_vectorSection fun _ => eqinCodes_inRange matrices
  · rw [characters_eq, vectorOfSection_sectionText_of_other (by decide),
      vectorOfSection_vectorSection_of_other (by decide),
      vectorOfSection_vectorSection_of_other (by decide),
      vectorOfSection_vectorSection_of_other (by decide)]
    exact vectorOfSection_vectorSection fun _ => minMax_inRange matrices

/-- The restrictions stand behind all sections. -/
theorem restrictionsOf_characters (matrices : Matrices) (dual : Bool) :
    restrictionsOf dual (characters matrices) =
      restrictionsOf dual (restrictionLines 1 (matrices.varConstr.getD [])) := by
  rw [restrictionsOf, restrictionsOf, characters_eq,
    restrictionTexts_sectionText (plain_rowTexts _),
    restrictionTexts_vectorSection,
    restrictionTexts_vectorSection, restrictionTexts_vectorSection,
    restrictionTexts_vectorSection]

/--
The dump of representable matrices holds them, with or without their
restrictions.
-/
theorem ofCharacters_characters
    {matrices : Matrices}
    (representable : matrices.Representable)
    (fits : matrices.FitsWords)
    {varConstr : Option (List Restriction)}
    {dual : Bool}
    (restrictionsRead :
      restrictionsOf dual (restrictionLines 1 (matrices.varConstr.getD [])) =
        .ok varConstr)
    (restrictionCount : ∀ restrictions ∈ varConstr,
      restrictions.length = matrices.c.length) :
    ofCharacters (characters matrices) dual =
      .ok { matrices with varConstr := varConstr } := by
  obtain ⟨a, b, c, codes, minMax⟩ := sections_characters representable fits
  rw [ofCharacters_eq_ok_iff, restrictionsOf_characters]
  refine ⟨a, b, c, codes, minMax, restrictionsRead, ?_⟩
  rw [shapeError?_eq_none_iff]
  obtain ⟨rowCount, boundCount, relationCount, rowWidth, coefficientCount⟩ :=
    representable.size
  exact ⟨⟨rowCount, boundCount, relationCount, rowWidth, coefficientCount⟩,
    restrictionCount⟩

/-- The dump of representable matrices holds them. -/
theorem read_write
    {matrices : Matrices}
    (representable : matrices.Representable)
    (fits : matrices.FitsWords) :
    read (write matrices) matrices.isDual = .ok matrices := by
  have restrictionsRead :
      restrictionsOf matrices.isDual
        (restrictionLines 1 (matrices.varConstr.getD [])) =
        .ok matrices.varConstr := by
    cases shape : matrices.varConstr with
    | none =>
        simp [Matrices.isDual, shape, restrictionsOf]
    | some restrictions =>
        have positionsFit : 1 + restrictions.length ≤ Numeral.maxIndex + 1 := by
          have lengthFits := fits.restrictionPositions restrictions shape
          omega
        simp only [Matrices.isDual, shape, Option.isSome_some, restrictionsOf,
          if_true, Option.getD_some]
        rw [restrictionsOfLines_restrictionLines positionsFit]
        rfl
  rw [read, write, String.toList_ofList]
  exact ofCharacters_characters representable fits restrictionsRead
    representable.restrictionCount

/--
The dump of representable matrices, read as that of a primal problem, lacks the
restrictions.
-/
theorem read_write_primal
    {matrices : Matrices}
    (representable : matrices.Representable)
    (fits : matrices.FitsWords) :
    read (write matrices) false = .ok { matrices with varConstr := none } := by
  rw [read, write, String.toList_ofList]
  exact ofCharacters_characters representable fits rfl nofun

/--
Some dump holds given matrices exactly if their own dump does, and exactly if
they are representable and fit 64 bits. Read as a primal problem, the dump of a
dual holds the dual without its restrictions.
-/
theorem read_write_iff (matrices : Matrices) (dual : Bool) :
    (read (write matrices) dual = .ok matrices ↔
      ∃ text, read text dual = .ok matrices) ∧
    ((∃ text, read text dual = .ok matrices) ↔
      matrices.isDual = dual ∧ matrices.Representable ∧ matrices.FitsWords) ∧
    (matrices.isDual → matrices.Representable → matrices.FitsWords →
      read (write matrices) false = .ok { matrices with varConstr := none }) := by
  have guaranteed :
      (∃ text, read text dual = .ok matrices) →
        matrices.isDual = dual ∧ matrices.Representable ∧ matrices.FitsWords := by
    rintro ⟨text, success⟩
    exact representable_of_ofCharacters success
  have roundTrip :
      matrices.isDual = dual ∧ matrices.Representable ∧ matrices.FitsWords →
        read (write matrices) dual = .ok matrices := by
    rintro ⟨rfl, representable, fits⟩
    exact read_write representable fits
  refine ⟨⟨?_, ?_⟩, ⟨guaranteed, ?_⟩, ?_⟩
  · intro success
    exact ⟨_, success⟩
  · intro someText
    exact roundTrip (guaranteed someText)
  · intro conditions
    exact ⟨_, roundTrip conditions⟩
  · intro _ representable fits
    exact read_write_primal representable fits

/-- The least and the greatest numbers survive, and a restriction of each kind. -/
theorem read_write_iff_extremes :
    let matrices : Matrices :=
      ⟨[[Numeral.minValue, 0, 7]], [Numeral.maxValue], [-1, 0, 1], [.eq], .min,
        some [.free, .nonPositive, .nonNegative]⟩
    read (write matrices) true = .ok matrices ∧
      read (write matrices) false = .ok { matrices with varConstr := none } := by
  intro matrices
  have size : matrices.HasSize 1 3 := ⟨rfl, rfl, rfl, by decide, rfl⟩
  have representable : matrices.Representable := ⟨size, by decide, by decide⟩
  have fits : matrices.FitsWords := ⟨by decide, by decide, by decide, by decide⟩
  obtain ⟨readsBack, holds, primal⟩ := read_write_iff matrices true
  exact ⟨readsBack.mpr (holds.mpr ⟨rfl, representable, fits⟩),
    primal rfl representable fits⟩

end LinearProgram.Dump
