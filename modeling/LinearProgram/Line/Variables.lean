import LinearProgram.Failure
import LinearProgram.Line.Lexeme
import LinearProgram.Text.Case

namespace LinearProgram

/-!
# The variables of a line

A variable is written `x` with its index, counted from one. The last variable
of a line tells how many variables the line speaks of: all those up to its
index, whether they occur or not.
-/

/-- The name of the variable with a given index. -/
def variableName (index : Nat) : String :=
  String.ofList ('x' :: Numeral.ofNat index)

/--
The index that the text of a variable carries behind its first character, which
has to be a single byte.
-/
def variableIndex (text : String) : Except Failure Nat :=
  match text.toList with
  | [] => .error (.invalidNumber text)
  | letter :: numeral =>
      match if letter.utf8Size = 1 then Numeral.index? numeral else none with
      | some index => .ok index
      | none => .error (.invalidNumber text)

/--
The variables of a line. The names of those that do not occur are counted and not
kept (`VariableSet.extended`). Memory is taken as unbounded, so a line may speak of
as many variables as an index can count.
-/
structure VariableSet where
  /-- The variables in order of appearance, repetitions included. -/
  existing : List String
  /-- The number of variables that the line speaks of. -/
  width : Nat
  deriving Repr, DecidableEq

namespace VariableSet

/-- The variables of a line without any. -/
def empty : VariableSet :=
  ⟨[], 0⟩

/-- The names of all variables that the line speaks of. -/
def extended (set : VariableSet) : List String :=
  (List.range set.width).map fun position => variableName (position + 1)

end VariableSet

/-- The texts of the variables among the tokens of a line. -/
def variableTexts (tokens : List Token) : List String :=
  (tokens.filter fun token => token.kind == .variable).map Token.text

/-- The index of the last of some variables, or zero if there is none. -/
def lastIndex (texts : List String) : Except Failure Nat :=
  match texts.getLast? with
  | some text => variableIndex text
  | none => .ok 0

/-- The variables among the tokens of a line. -/
def VariableSet.ofTokens (tokens : List Token) : Except Failure VariableSet := do
  let texts := variableTexts tokens
  let width ← lastIndex texts
  return ⟨texts.map Text.lowercase, width⟩

end LinearProgram
