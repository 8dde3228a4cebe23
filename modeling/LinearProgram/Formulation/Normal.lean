import LinearProgram.Failure
import LinearProgram.Text.Pieces

namespace LinearProgram.Formulation

/-!
# Normal lines

The lines of a problem are kept without blanks, and lines that are left empty
are dropped. A text given directly is cut at a delimiter of the caller's
choice, the text of a file at its line ends.
-/

/-- The pieces of a text that are not blank, without their blanks. -/
def normalLines (pieces : List (List Char)) : List String :=
  ((pieces.map Text.compact).filter fun line => !line.isEmpty).map String.ofList

/-- Each piece gives its own normal line, if any. -/
theorem normalLines_append (first second : List (List Char)) :
    normalLines (first ++ second) = normalLines first ++ normalLines second := by
  simp [normalLines]

/-- The normal lines of a text that is cut at a delimiter. -/
def linesOfText (text delimiter : String) : Except Failure (List String) :=
  if delimiter = "" then
    .error (.argument .emptyDelimiter)
  else
    .ok (normalLines (Text.splitOn delimiter.toList text.toList))

/-- The normal lines of the text of a file. -/
def linesOfFile (text : String) : List String :=
  normalLines (Text.lines text.toList)

end LinearProgram.Formulation
