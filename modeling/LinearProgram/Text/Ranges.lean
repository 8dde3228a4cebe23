namespace LinearProgram.Text

/-!
# Sets of code points

A set of characters is given by the inclusive ranges of its code points in
increasing order, so that a search may stop at the first range that lies
beyond the code point in question. It finds exactly the code points that lie in
some range (`inRanges_iff`).
-/

/-- Whether a code point lies in one of the increasing ranges. -/
def inRanges (codePoint : Nat) : List (Nat × Nat) → Bool
  | [] => false
  | (first, last) :: rest =>
      if codePoint < first then
        false
      else if codePoint ≤ last then
        true
      else
        inRanges codePoint rest

/-- Whether ranges are nonempty and disjoint, and increase from a least code point. -/
def increaseFrom (least : Nat) : List (Nat × Nat) → Bool
  | [] => true
  | (first, last) :: rest =>
      least ≤ first && first ≤ last && increaseFrom (last + 1) rest

/-- Increasing ranges start at the least code point or later. -/
theorem le_of_increaseFrom
    {least : Nat}
    {ranges : List (Nat × Nat)}
    (increase : increaseFrom least ranges)
    {range : Nat × Nat}
    (member : range ∈ ranges) :
    least ≤ range.1 := by
  induction ranges generalizing least with
  | nil =>
      cases member
  | cons head rest inductionHypothesis =>
      obtain ⟨first, last⟩ := head
      simp only [increaseFrom, Bool.and_eq_true, decide_eq_true_eq] at increase
      obtain ⟨⟨leastFirst, firstLast⟩, restIncrease⟩ := increase
      rcases List.mem_cons.mp member with isHead | inRest
      · subst isHead
        exact leastFirst
      · have beyond := inductionHypothesis restIncrease inRest
        omega

/-- A code point is found exactly when it lies in some range. -/
theorem inRanges_iff
    {least : Nat}
    {ranges : List (Nat × Nat)}
    (increase : increaseFrom least ranges)
    (codePoint : Nat) :
    inRanges codePoint ranges ↔
      ∃ range ∈ ranges, range.1 ≤ codePoint ∧ codePoint ≤ range.2 := by
  induction ranges generalizing least with
  | nil =>
      simp [inRanges]
  | cons head rest inductionHypothesis =>
      obtain ⟨first, last⟩ := head
      simp only [increaseFrom, Bool.and_eq_true, decide_eq_true_eq] at increase
      obtain ⟨⟨_, firstLast⟩, restIncrease⟩ := increase
      have restFound := inductionHypothesis restIncrease
      constructor
      · intro found
        simp only [inRanges] at found
        split at found
        · cases found
        · next notBefore =>
            split at found
            · next notBeyond =>
                exact ⟨(first, last), List.mem_cons_self, by omega, notBeyond⟩
            · obtain ⟨range, member, bounds⟩ := restFound.mp found
              exact ⟨range, List.mem_cons_of_mem _ member, bounds⟩
      · rintro ⟨range, member, atLeast, atMost⟩
        rcases List.mem_cons.mp member with isHead | inRest
        · subst isHead
          have notBefore : ¬ codePoint < first := by
            omega
          simp [inRanges, notBefore, atMost]
        · have beyond := le_of_increaseFrom restIncrease inRest
          have notBefore : ¬ codePoint < first := by
            omega
          have notWithin : ¬ codePoint ≤ last := by
            omega
          simp only [inRanges, notBefore, notWithin, if_false]
          exact restFound.mpr ⟨range, inRest, atLeast, atMost⟩

end LinearProgram.Text
