import LinearProgram.Proofs.Formulation.Normal
import LinearProgram.Workspace

namespace LinearProgram

/-!
# Sources that state the same problem

What is opened is the normal lines of a source and nothing else of it. So blanks
that do not separate lines make no difference to a session
(`linesOfText_blankInvariant`), and neither does reading a problem from a file in
place of giving its text (`load_file_as_text`).
-/

/-- A text is read from the bytes that encode it. -/
theorem Contents.ofBytes_toUTF8 (content : String) :
    ofBytes content.toUTF8 = .text content := by
  have valid : content.toUTF8.IsValidUTF8 := content.isValidUTF8
  rw [ofBytes, String.fromUTF8?, dif_pos valid]
  rfl

namespace Workspace

/-- A step that may be taken in place of another may be so at the start of any session. -/
theorem run_cons_congr
    {workspace : Workspace}
    {first other : Step}
    (same : workspace.step first = workspace.step other)
    (rest : List Step) :
    workspace.run (first :: rest) = workspace.run (other :: rest) := by
  rw [run, run, same]

/-- A text is opened as its normal lines. -/
theorem step_load_text
    (workspace : Workspace)
    (text delimiter : String) :
    workspace.step (.load none (some text) delimiter) =
      match Formulation.linesOfText text delimiter with
      | .ok lines => (.ok .done, { workspace with draft := some (.ofLines lines) })
      | .error failure => (.error (.failure failure), workspace) := by
  rw [step, load, Formulation.ofSource]
  cases Formulation.linesOfText text delimiter <;> rfl

/-- The text of a file is opened as its normal lines, whatever the delimiter. -/
theorem step_load_file
    {workspace : Workspace}
    {file content : String}
    (held : workspace.folder.find? file = some (.text content))
    (delimiter : String) :
    workspace.step (.load (some file) none delimiter) =
      (.ok .done,
        { workspace with draft := some (.ofLines (Formulation.linesOfFile content)) }) := by
  rw [step, load, Formulation.ofSource, Folder.read, held]
  rfl

/--
Texts that differ only in blanks other than a delimiter of one character have the
same lines, and no session can tell which of them it was opened from. The lines of
any text are in normal form, whatever the delimiter.
-/
theorem linesOfText_blankInvariant :
    (∀ (delimiter : Char) (text other : String),
      Text.compactBut delimiter text.toList = Text.compactBut delimiter other.toList →
        (∃ lines, Formulation.linesOfText text (.singleton delimiter) = .ok lines ∧
          Formulation.linesOfText other (.singleton delimiter) = .ok lines) ∧
        ∀ (workspace : Workspace) (steps : List Step),
          workspace.run (.load none (some text) (.singleton delimiter) :: steps) =
            workspace.run (.load none (some other) (.singleton delimiter) :: steps)) ∧
    ∀ delimiter text : String, delimiter ≠ "" →
      ∃ lines, Formulation.linesOfText text delimiter = .ok lines ∧
        Formulation.NormalForm text delimiter lines := by
  refine ⟨?_, fun delimiter text nonempty =>
    Formulation.linesOfText_inNormalForm nonempty text⟩
  intro delimiter text other sameButBlanks
  have same := Formulation.linesOfText_congr sameButBlanks
  constructor
  · exact ⟨_, Formulation.linesOfText_singleton text delimiter,
      same ▸ Formulation.linesOfText_singleton text delimiter⟩
  · intro workspace steps
    refine run_cons_congr ?_ steps
    rw [step_load_text, step_load_text, same]

/--
A line feed separates although it is blank. A delimiter that overlaps with itself
is found where it stands first, with its blanks.
-/
theorem linesOfText_blankInvariant_delimiters :
    let text := " Max 3 x1\t\n\u2003\ns.t. x1 < = 4\r\nEnd"
    let other := "Max3x1\n\ns.t.x1<=4\nEnd"
    let steps : List Step := [.check, .ask .matrices]
    (Formulation.linesOfText text "\n" = .ok ["Max3x1", "s.t.x1<=4", "End"] ∧
      ∀ workspace : Workspace,
        workspace.run (.load none (some text) "\n" :: steps) =
          workspace.run (.load none (some other) "\n" :: steps)) ∧
    Formulation.linesOfText "x1; ; ;x2; ;x3" "; ;" = .ok ["x1", ";x2", "x3"] ∧
      Formulation.NormalForm "x1; ; ;x2; ;x3" "; ;" ["x1", ";x2", "x3"] := by
  intro text other steps
  have sameButBlanks :
      Text.compactBut '\n' text.toList = Text.compactBut '\n' other.toList := by
    decide
  have lines : Formulation.linesOfText text "\n" = .ok ["Max3x1", "s.t.x1<=4", "End"] := by
    unfold text
    rfl
  have cut : Formulation.linesOfText "x1; ; ;x2; ;x3" "; ;" = .ok ["x1", ";x2", "x3"] := by
    rfl
  obtain ⟨lines, found, normalForm⟩ :=
    linesOfText_blankInvariant.2 "; ;" "x1; ; ;x2; ;x3" (by decide)
  rw [cut] at found
  cases found
  exact ⟨⟨lines, fun workspace =>
    (linesOfText_blankInvariant.1 '\n' text other sameButBlanks).2 workspace steps⟩,
    cut, normalForm⟩

/--
A file is opened as its text with line feeds for the delimiter, whichever way its
lines end and whatever delimiter is given with it. No session can tell the two ways
of opening it apart.
-/
theorem load_file_as_text
    {workspace : Workspace}
    {file content : String}
    (held : workspace.folder.find? file = some (.ofBytes content.toUTF8))
    (delimiter : String) :
    ∃ lines, Formulation.linesOfText content "\n" = .ok lines ∧
      workspace.step (.load (some file) none delimiter) =
        (.ok .done, { workspace with draft := some (.ofLines lines) }) ∧
      ∀ steps,
        workspace.run (.load (some file) none delimiter :: steps) =
          workspace.run (.load none (some content) "\n" :: steps) := by
  rw [Contents.ofBytes_toUTF8] at held
  have lines := Formulation.linesOfText_lineFeed content
  have opened := step_load_file held delimiter
  refine ⟨_, lines, opened, fun steps => run_cons_congr ?_ steps⟩
  rw [opened, step_load_text, lines]

/-- Lines that end in different ways, and no delimiter at all. -/
theorem load_file_as_text_mixedLineEnds :
    let content := "Max 3x1\r\nst x1\r<= 4\n\r\n\x00\nEnd"
    let opened := ofFolder ⟨[("p", .ofBytes content.toUTF8)]⟩
    let lines := ["Max3x1", "stx1<=4", "\x00", "End"]
    opened.step (.load (some "p") none "") =
        (.ok .done, { opened with draft := some (.ofLines lines) }) ∧
      opened.run [.load (some "p") none "", .check, .ask .matrices] =
        opened.run [.load none (some content) "\n", .check, .ask .matrices] := by
  intro content opened lines
  have held : opened.folder.find? "p" = some (.ofBytes content.toUTF8) := by
    rfl
  obtain ⟨found, cut, step, runs⟩ := load_file_as_text held ""
  have same : Formulation.linesOfText content "\n" = .ok lines := by
    unfold content lines
    rfl
  rw [same] at cut
  cases cut
  exact ⟨step, runs [.check, .ask .matrices]⟩

end Workspace

end LinearProgram
