import Mathlib.Data.List.Forall2

namespace LinearProgram

/-!
# Sequences and traversals that may fail

One step after another succeeds exactly if both do, and a traversal of a list
exactly if it succeeds on every element.
-/

/-- Two requests in a row succeed just if each of them does. -/
theorem bind_eq_ok_iff
    {outcome : Except ε α}
    {next : α → Except ε β}
    {result : β} :
    (outcome >>= next) = .ok result ↔
      ∃ value, outcome = .ok value ∧ next value = .ok result := by
  cases outcome with
  | error failure =>
      constructor
      · intro success
        cases success
      · rintro ⟨_, success, _⟩
        cases success
  | ok value =>
      constructor
      · intro success
        exact ⟨value, rfl, success⟩
      · rintro ⟨_, success, nextSuccess⟩
        cases success
        exact nextSuccess

/-- A traversal succeeds with the results of its items. -/
theorem mapM_eq_ok_iff
    {f : α → Except ε β}
    {items : List α}
    {results : List β} :
    items.mapM f = .ok results ↔
      List.Forall₂ (fun item result => f item = .ok result) items results := by
  induction items generalizing results with
  | nil =>
      rw [List.mapM_nil, List.forall₂_nil_left_iff]
      constructor
      · intro success
        cases success
        rfl
      · rintro rfl
        rfl
  | cons item items inductionHypothesis =>
      rw [List.mapM_cons, List.forall₂_cons_left_iff]
      cases headOutcome : f item with
      | error failure =>
          constructor
          · intro success
            cases success
          · rintro ⟨result, _, headSuccess, _⟩
            cases headSuccess
      | ok result =>
          cases restOutcome : items.mapM f with
          | error failure =>
              constructor
              · intro success
                cases success
              · rintro ⟨_, others, _, restSuccess, _⟩
                rw [inductionHypothesis.mpr restSuccess] at restOutcome
                cases restOutcome
          | ok others =>
              constructor
              · intro success
                cases success
                exact ⟨result, others, rfl, inductionHypothesis.mp restOutcome, rfl⟩
              · rintro ⟨_, _, headSuccess, restSuccess, rfl⟩
                cases headSuccess
                rw [inductionHypothesis.mpr restSuccess] at restOutcome
                cases restOutcome
                rfl

/-- A traversal of numbered elements, whose numbers do not matter for what is found. -/
theorem mapM_zipIdx_eq_ok_iff
    {find : Nat → α → Except ε β}
    {gives : α → β → Prop}
    (each : ∀ number item result, find number item = .ok result ↔ gives item result)
    {items : List α}
    {results : List β}
    (start : Nat) :
    ((items.zipIdx start).mapM fun numbered => find numbered.2 numbered.1) =
        .ok results ↔
      List.Forall₂ gives items results := by
  have elements : (items.zipIdx start).map Prod.fst = items :=
    List.zipIdx_map_fst start items
  rw [mapM_eq_ok_iff, ← elements, List.forall₂_map_left_iff, elements]
  simp only [each]

/-- What is on the right belongs to something on the left. -/
theorem exists_mem_of_forall₂
    {related : α → β → Prop}
    {left : List α}
    {right : List β}
    (each : List.Forall₂ related left right)
    {item : β}
    (member : item ∈ right) :
    ∃ other ∈ left, related other item := by
  induction each with
  | nil =>
      cases member
  | @cons other head left right headRelated _ inductionHypothesis =>
      rcases List.mem_cons.mp member with isHead | inRest
      · subst isHead
        exact ⟨other, List.mem_cons_self, headRelated⟩
      · obtain ⟨found, foundMember, foundRelated⟩ := inductionHypothesis inRest
        exact ⟨found, List.mem_cons_of_mem _ foundMember, foundRelated⟩

/-- Lists of related elements are divided in the same place. -/
theorem exists_split_of_forall₂
    {related : α → β → Prop}
    {left : List α}
    {before behind : List β}
    {item : β}
    (each : List.Forall₂ related left (before ++ item :: behind)) :
    ∃ first other rest, left = first ++ other :: rest ∧
      List.Forall₂ related first before ∧ related other item := by
  have front := List.forall₂_take_append left before (item :: behind) each
  have back := List.forall₂_drop_append left before (item :: behind) each
  obtain ⟨other, rest, isItem, _, dropped⟩ := List.forall₂_cons_right_iff.mp back
  refine ⟨left.take before.length, other, rest, ?_, front, isItem⟩
  rw [← dropped, List.take_append_drop]

/-- What does not tell related elements apart comes to the same on each of them. -/
theorem map_eq_of_forall₂
    {related : α → β → Prop}
    {left : List α}
    {right : List β}
    {f : α → γ}
    {g : β → γ}
    (each : List.Forall₂ related left right)
    (same : ∀ item other, related item other → f item = g other) :
    left.map f = right.map g := by
  rw [← List.forall₂_eq_eq_eq, List.forall₂_map_left_iff, List.forall₂_map_right_iff]
  exact each.imp same

/-- A property that related items share is had on both sides or on neither. -/
theorem any_eq_of_forall₂
    {related : α → β → Prop}
    {left : List α}
    {right : List β}
    {f : α → Bool}
    {g : β → Bool}
    (each : List.Forall₂ related left right)
    (same : ∀ item other, related item other → f item = g other) :
    left.any f = right.any g := by
  have found := congrArg (List.any · id) (map_eq_of_forall₂ each same)
  rwa [List.any_map, List.any_map] at found

/-- Related elements have the same numbers. -/
theorem forall₂_zipIdx
    {related : α → β → Prop}
    {left : List α}
    {right : List β}
    (each : List.Forall₂ related left right)
    (start : Nat) :
    List.Forall₂ (fun item other => related item.1 other.1 ∧ item.2 = other.2)
      (left.zipIdx start) (right.zipIdx start) := by
  induction each generalizing start with
  | nil =>
      exact .nil
  | cons head _ inductionHypothesis =>
      exact .cons ⟨head, rfl⟩ (inductionHypothesis (start + 1))

/-- Every result of a traversal comes from an element. -/
theorem exists_mem_of_mapM_eq_ok
    {f : α → Except ε β}
    {items : List α}
    {results : List β}
    (success : items.mapM f = .ok results)
    {result : β}
    (member : result ∈ results) :
    ∃ item ∈ items, f item = .ok result :=
  exists_mem_of_forall₂ (mapM_eq_ok_iff.mp success) member

/-- Reading what has been written element by element gives the elements back. -/
theorem mapM_map_eq_ok
    {write : β → α}
    {read : α → Except ε β}
    {items : List β}
    (readsBack : ∀ item ∈ items, read (write item) = .ok item) :
    (items.map write).mapM read = .ok items := by
  rw [mapM_eq_ok_iff, List.forall₂_map_left_iff, List.forall₂_same]
  exact readsBack

/-- There are results related to some elements exactly if there is one for each of them. -/
theorem exists_forall₂_iff
    {related : α → β → Prop}
    {items : List α} :
    (∃ results, List.Forall₂ related items results) ↔
      ∀ item ∈ items, ∃ result, related item result := by
  induction items with
  | nil =>
      simp
  | cons item items inductionHypothesis =>
      rw [List.forall_mem_cons, ← inductionHypothesis]
      constructor
      · rintro ⟨results, each⟩
        obtain ⟨result, others, isHead, inRest, rfl⟩ := List.forall₂_cons_left_iff.mp each
        exact ⟨⟨result, isHead⟩, others, inRest⟩
      · rintro ⟨⟨result, isHead⟩, others, inRest⟩
        exact ⟨result :: others, .cons isHead inRest⟩

/-- Of requests made in order, the first that fails fails with the given failure. -/
def FirstFailure (request : α → Except ε β) (items : List α) (failure : ε) : Prop :=
  ∃ before item behind, items = before ++ item :: behind ∧
    (∀ earlier ∈ before, ∃ result, request earlier = .ok result) ∧
    request item = .error failure

/-- Requests that succeed and fail alike have the first failure in the same place. -/
theorem FirstFailure.imp
    {request : α → Except ε β}
    {other : α → Except δ γ}
    {items : List α}
    {failure : ε}
    {otherFailure : δ}
    (first : FirstFailure request items failure)
    (success : ∀ item result, request item = .ok result → ∃ same, other item = .ok same)
    (refused : ∀ item, request item = .error failure → other item = .error otherFailure) :
    FirstFailure other items otherFailure := by
  obtain ⟨before, item, behind, split, earlier, blamed⟩ := first
  refine ⟨before, item, behind, split, fun passed member => ?_, refused item blamed⟩
  obtain ⟨result, given⟩ := earlier passed member
  exact success passed result given

/-- The first failure is that of the head, or that of the tail behind a head that succeeds. -/
theorem firstFailure_cons_iff
    {request : α → Except ε β}
    {item : α}
    {items : List α}
    {failure : ε} :
    FirstFailure request (item :: items) failure ↔
      request item = .error failure ∨
        (∃ result, request item = .ok result) ∧ FirstFailure request items failure := by
  constructor
  · rintro ⟨before, found, behind, split, earlier, refused⟩
    cases before with
    | nil =>
        cases split
        exact .inl refused
    | cons head rest =>
        cases split
        rw [List.forall_mem_cons] at earlier
        exact .inr ⟨earlier.1, rest, found, behind, rfl, earlier.2, refused⟩
  · rintro (refused | ⟨success, before, found, behind, rfl, earlier, refused⟩)
    · exact ⟨[], item, items, rfl, by simp, refused⟩
    · exact ⟨item :: before, found, behind, rfl, List.forall_mem_cons.mpr ⟨success, earlier⟩,
        refused⟩

/-- Of numbered requests, the first that fails is made with the number of its place. -/
theorem FirstFailure.of_zipIdx
    {request : Nat → α → Except ε β}
    {items : List α}
    {start : Nat}
    {failure : ε}
    (first :
      FirstFailure (fun numbered => request numbered.2 numbered.1) (items.zipIdx start) failure) :
    ∃ before item behind, items = before ++ item :: behind ∧
      (∀ earlier ∈ before, ∃ number result, request number earlier = .ok result) ∧
      request (start + before.length) item = .error failure := by
  induction items generalizing start with
  | nil =>
      obtain ⟨before, item, behind, split, _⟩ := first
      exact absurd split.symm (by simp)
  | cons item items inductionHypothesis =>
      rw [List.zipIdx_cons] at first
      rcases firstFailure_cons_iff.mp first with refused | ⟨⟨result, given⟩, later⟩
      · exact ⟨[], item, items, rfl, by simp, refused⟩
      · obtain ⟨before, found, behind, rfl, earlier, refused⟩ := inductionHypothesis later
        refine ⟨item :: before, found, behind, rfl, ?_, ?_⟩
        · exact List.forall_mem_cons.mpr ⟨⟨start, result, given⟩, earlier⟩
        · rwa [List.length_cons, Nat.add_comm before.length, ← Nat.add_assoc]

/-- A traversal fails as the first of its elements that fails. -/
theorem mapM_eq_error_iff
    {request : α → Except ε β}
    {items : List α}
    {failure : ε} :
    items.mapM request = .error failure ↔ FirstFailure request items failure := by
  induction items with
  | nil =>
      constructor
      · intro refused
        cases refused
      · rintro ⟨before, item, behind, split, _⟩
        exact absurd split.symm (by simp)
  | cons item items inductionHypothesis =>
      rw [List.mapM_cons, firstFailure_cons_iff, ← inductionHypothesis]
      cases request item with
      | error other =>
          simp [bind, Except.bind]
      | ok result =>
          cases items.mapM request with
          | error other =>
              simp [bind, Except.bind]
          | ok results =>
              simp [bind, Except.bind, pure, Except.pure]

/-- All failures of an outcome are of an allowed kind. -/
def FailsOnly (allowed : ε → Prop) (outcome : Except ε α) : Prop :=
  ∀ failure, outcome = .error failure → allowed failure

namespace FailsOnly

variable {allowed : ε → Prop}

theorem ok (value : α) : FailsOnly allowed (.ok value) := by
  intro failure refused
  cases refused

theorem error
    {failure : ε}
    (isAllowed : allowed failure) :
    FailsOnly allowed (.error failure : Except ε α) := by
  intro other refused
  cases refused
  exact isAllowed

theorem imp
    {others : ε → Prop}
    {outcome : Except ε α}
    (failsOnly : FailsOnly allowed outcome)
    (isAllowed : ∀ failure, allowed failure → others failure) :
    FailsOnly others outcome :=
  fun failure refused => isAllowed failure (failsOnly failure refused)

theorem map
    {f : α → β}
    {outcome : Except ε α}
    (failsOnly : FailsOnly allowed outcome) :
    FailsOnly allowed (outcome.map f) := by
  cases outcome with
  | error failure =>
      exact error (failsOnly failure rfl)
  | ok value =>
      exact ok (f value)

/-- Requests in a row fail only as one of them does. -/
theorem bind
    {outcome : Except ε α}
    {next : α → Except ε β}
    (first : FailsOnly allowed outcome)
    (second : ∀ value, outcome = .ok value → FailsOnly allowed (next value)) :
    FailsOnly allowed (outcome >>= next) := by
  cases outcome with
  | error failure =>
      exact error (first failure rfl)
  | ok value =>
      exact second value rfl

theorem mapM
    {f : α → Except ε β}
    {items : List α}
    (each : ∀ item ∈ items, FailsOnly allowed (f item)) :
    FailsOnly allowed (items.mapM f) := by
  induction items with
  | nil =>
      exact ok []
  | cons item items inductionHypothesis =>
      rw [List.forall_mem_cons] at each
      rw [List.mapM_cons]
      refine each.1.bind fun _ _ => ?_
      exact (inductionHypothesis each.2).bind fun _ _ => ok _

end FailsOnly

end LinearProgram
