import LinearProgram.Proofs.Formulation.Dimensions
import LinearProgram.Proofs.Formulation.SoundDraft
import LinearProgram.Workspace

namespace LinearProgram

/-!
# What holds in every workspace

A session starts with some files and takes steps. Whatever the steps are, the
draft that it holds is sound (`Workspace.Sound.after`), from which follows what
a user may rely on (`Draft.Consistent`).
-/

namespace Draft

open Formulation (Diagnostic Dimensions)

/-- What a user may rely on in a draft. -/
structure Consistent (draft : Draft) : Prop where
  /-- No line is empty or has a blank in it. -/
  lines : ∀ line ∈ draft.lines,
    line ≠ "" ∧ ∀ character ∈ line.toList, Text.isBlank character = false
  /-- Nothing has been found in a draft without lines. -/
  noLines : draft.lines = [] → draft.diagnostics = [] ∧ draft.terminator = none
  /-- The lines end in front of the terminator that was found last, and hold no other. -/
  terminator (index : Nat) : draft.terminator = some index →
    1 ≤ index ∧ draft.lines.length = index ∧
      ∀ line ∈ draft.lines.drop 1, Text.lowercase line ≠ "end"
  /-- The diagnostics come in their order, each at most once. -/
  order : draft.diagnostics.Sublist Diagnostic.all
  oneDirection :
    ¬ (.missingDirection ∈ draft.diagnostics ∧ .ambiguousDirection ∈ draft.diagnostics)
  known (dimensions : Dimensions) : draft.known = some dimensions →
    Formulation.dimensionsOf draft.lines = .ok dimensions
  /-- Dimensions are those of the lines, whether they were known or not. -/
  dimensions (dimensions : Dimensions) : draft.dimensions.1 = .ok dimensions →
    ∃ index, draft.terminator = some index ∧ draft.lines.length = index ∧
      Formulation.dimensionsOf draft.lines = .ok dimensions ∧
      dimensions.constraintCount + 1 = index
  /-- Matrices are told only where there are dimensions. -/
  measured (query : Query) (answer : Answer) : query.measures →
    (draft.answer query).1 = .ok answer →
    ∃ dimensions, draft.dimensions.1 = .ok dimensions

namespace Sound

variable {draft : Draft}

/-- Where a terminator has been found there are lines. -/
theorem lines_ne_nil_of_terminator
    (sound : draft.Sound)
    {index : Nat}
    (found : draft.terminator = some index) :
    draft.lines ≠ [] := by
  apply sound.filled
  by_contra unchecked
  rw [(sound.unchecked (Bool.not_eq_true _ ▸ unchecked)).2] at found
  cases found

/-- A line that says `end` in any case is a terminator. -/
theorem lowercase_ne
    (sound : draft.Sound)
    {line : String}
    (member : line ∈ draft.lines)
    (noTerminator : isTerminatorLine (tokenize line) = false) :
    Text.lowercase line ≠ "end" := by
  intro isEnd
  have spelled := congrArg String.toList isEnd
  rw [Text.lowercase, String.toList_ofList] at spelled
  have ends : IsEnd line := by
    rw [IsEnd, trim_eq_self (sound.normal line member).unbroken, spelled]
    rfl
  rw [isTerminatorLine_tokenize.mpr ends] at noTerminator
  cases noTerminator

/-- A sound draft with dimensions has been cut at its terminator. -/
theorem cut_of_dimensions
    (sound : draft.Sound)
    {dimensions : Dimensions}
    (success : draft.formulation.dimensions = .ok dimensions) :
    draft.terminator = some draft.lines.length ∧
      Formulation.dimensionsOf draft.lines = .ok dimensions ∧
      dimensions.constraintCount + 1 = draft.lines.length := by
  obtain ⟨valid, found⟩ := dimensions_formulation_eq_ok_iff.mp success
  obtain ⟨filled, checked, noErrors⟩ := requireValid_eq_ok_iff.mp valid
  refine ⟨(sound.clean checked noErrors).1, found, ?_⟩
  rw [Formulation.constraintCount_of_dimensionsOf found]
  exact Nat.sub_add_cancel (List.length_pos_of_ne_nil filled)

/-- What a sound draft says of itself is consistent. -/
theorem consistent (sound : draft.Sound) : draft.Consistent where
  lines := fun line member => ⟨(sound.normal line member).filled,
    (sound.normal line member).unbroken⟩
  noLines := fun noLines => by
    have unchecked := sound.unchecked_of_lines_eq_nil noLines
    exact sound.unchecked unchecked
  terminator := fun index found => by
    have length := sound.cut index found
    refine ⟨?_, length, ?_⟩
    · rw [← length]
      exact List.length_pos_of_ne_nil (sound.lines_ne_nil_of_terminator found)
    · intro line member
      rw [List.drop_one] at member
      exact sound.lowercase_ne (List.mem_of_mem_tail member)
        (sound.ended (by simp [found]) line member)
  order := sound.order
  oneDirection := sound.oneDirection
  known := sound.known
  dimensions := fun dimensions success => by
    rw [sound.dimensions_fst] at success
    obtain ⟨cut, found, count⟩ := sound.cut_of_dimensions success
    exact ⟨_, cut, rfl, found, count⟩
  measured := fun query answer measures success => by
    rw [sound.answer_fst] at success
    obtain ⟨dimensions, outcome⟩ := exists_dimensions_of_answer measures success
    exact ⟨dimensions, by rw [sound.dimensions_fst, outcome]⟩

end Sound

end Draft

namespace Workspace

/-- A workspace whose draft is sound, if a problem has been opened. -/
def Sound (workspace : Workspace) : Prop :=
  ∀ draft ∈ workspace.draft, draft.Sound

theorem sound_ofFolder (folder : Folder) : (ofFolder folder).Sound := by
  intro draft opened
  cases opened

/-- Work on a draft leaves what the work makes of it. -/
theorem draft_work
    (workspace : Workspace)
    (act : Draft → Except Failure Answer × Draft) :
    (workspace.work act).2.draft = workspace.draft.map fun draft => (act draft).2 := by
  rw [work]
  cases opened : workspace.draft with
  | none =>
      exact opened
  | some draft =>
      rfl

theorem draft_writeDump
    (workspace : Workspace)
    (file : String)
    (dual : Bool) :
    (workspace.writeDump file dual).2.draft =
      workspace.draft.map fun draft => (draft.matricesOf dual).2 := by
  rw [writeDump]
  cases opened : workspace.draft with
  | none =>
      exact opened
  | some draft =>
      dsimp only
      split
      · rfl
      · split <;> rfl

/-- A workspace stays sound under work that keeps drafts sound. -/
theorem Sound.map
    {workspace after : Workspace}
    (sound : workspace.Sound)
    {act : Draft → Draft}
    (worked : after.draft = workspace.draft.map act)
    (keeps : ∀ draft : Draft, draft.Sound → (act draft).Sound) :
    after.Sound := by
  intro draft opened
  rw [worked] at opened
  obtain ⟨before, openedBefore, rfl⟩ := Option.map_eq_some_iff.mp opened
  exact keeps before (sound before openedBefore)

/-- A step leaves a sound draft, whether it succeeds or is refused. -/
theorem Sound.step
    {workspace : Workspace}
    (sound : workspace.Sound)
    (taken : Step) :
    (workspace.step taken).2.Sound := by
  cases taken with
  | load file text delimiter =>
      rw [Workspace.step, Workspace.load]
      split
      · next formulation success =>
          intro draft opened
          cases opened
          exact Draft.sound_ofLines (Formulation.isNormal_of_ofSource success)
      · exact sound
  | check =>
      exact sound.map (workspace.draft_work _) fun draft draftSound => draftSound.check
  | ask query =>
      refine sound.map (workspace.draft_work _) ?_
      intro draft draftSound
      exact draftSound.asked (draftSound.asked_answer query)
  | writeDump file dual =>
      refine sound.map (workspace.draft_writeDump file dual) ?_
      intro draft draftSound
      rw [draftSound.matricesOf_eq]
      exact draftSound.asked draftSound.asked_dimensions
  | readDump file dual =>
      exact sound

/-- The draft is sound after any steps. -/
theorem Sound.after
    {workspace : Workspace}
    (sound : workspace.Sound)
    (steps : List Step) :
    (workspace.after steps).Sound := by
  induction steps generalizing workspace with
  | nil =>
      exact sound
  | cons taken rest inductionHypothesis =>
      exact inductionHypothesis (sound.step taken)

/-- A workspace that a session leads to. -/
def Reachable (workspace : Workspace) : Prop :=
  ∃ folder steps, (ofFolder folder).after steps = workspace

/-- Every workspace that can be reached is sound. -/
theorem Reachable.sound
    {workspace : Workspace}
    (reachable : workspace.Reachable) :
    workspace.Sound := by
  obtain ⟨folder, steps, rfl⟩ := reachable
  exact (sound_ofFolder folder).after steps

/-- Whatever steps a session takes, its draft is consistent. -/
theorem draft_consistent_of_reachable
    {workspace : Workspace}
    (reachable : workspace.Reachable)
    {draft : Draft}
    (opened : workspace.draft = some draft) :
    draft.Consistent :=
  (reachable.sound draft opened).consistent

/--
Matrices make the dimensions known, a source that is refused leaves the draft,
and a second check misses the terminator, whose place is still known.
-/
theorem draft_consistent_of_reachable_checkedTwice :
    let steps : List Step :=
      [.load none (some "Max x1 - 2x2|s.t. x1 <= 4|End|x3") "|", .check, .ask .matrices]
    let more : List Step := [.load none none "|", .check]
    let measured : Draft := ⟨["Maxx1-2x2", "s.t.x1<=4"], [], some 2, true, some ⟨1, 2⟩⟩
    let checkedTwice : Draft :=
      ⟨["Maxx1-2x2", "s.t.x1<=4"], [.missingTerminator], some 2, true, none⟩
    (((ofFolder .empty).after steps).draft = some measured ∧ measured.Consistent) ∧
      ((ofFolder .empty).after (steps ++ more)).draft = some checkedTwice ∧
        checkedTwice.Consistent := by
  intro steps more measured checkedTwice
  have before : ((ofFolder .empty).after steps).draft = some measured := by
    rfl
  have behind : ((ofFolder .empty).after (steps ++ more)).draft = some checkedTwice := by
    rfl
  exact ⟨⟨before, draft_consistent_of_reachable ⟨.empty, steps, rfl⟩ before⟩,
    behind, draft_consistent_of_reachable ⟨.empty, steps ++ more, rfl⟩ behind⟩

end Workspace

end LinearProgram
