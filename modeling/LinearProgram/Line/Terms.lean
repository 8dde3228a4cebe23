import LinearProgram.Line.Variables

namespace LinearProgram

/-!
# The terms of a line

A term is a variable with the magnitude and the sign that precede it. Terms are
collected from the tokens of a line and then entered into a row of
coefficients, one position for each variable; a later term replaces an earlier
one for the same variable.
-/

/-- A variable with the sign and the magnitude in front of it. -/
structure Term where
  negated : Bool
  /-- The text of the magnitude, which is one if it is left out. -/
  magnitude : Option String
  /-- The text of the variable. -/
  variableText : String
  deriving Repr, DecidableEq

namespace Term

/--
The terms among the tokens of a line, where `negated` and `magnitude` are what
the tokens before them contribute to the next term.
-/
def collect (negated : Bool) (magnitude : Option String) : List Token → List Term
  | [] => []
  | token :: rest =>
      match token.kind with
      | .sign sign => collect (sign == .minus) none rest
      | .integer => collect negated (some token.text) rest
      | .variable => ⟨negated, magnitude, token.text⟩ :: collect false none rest
      | _ => collect false none rest

/-- The terms among the tokens of a line. -/
def ofTokens (tokens : List Token) : List Term :=
  collect false none tokens

/-- Read the text of an integer. -/
def integerValue (text : String) : Except Failure Int :=
  match Numeral.value? text.toList with
  | some value => .ok value
  | none => .error (.invalidNumber text)

/-- The coefficient of a term. -/
def coefficient (term : Term) : Except Failure Int := do
  let magnitude ← match term.magnitude with
    | some text => integerValue text
    | none => .ok 1
  return if term.negated then -magnitude else magnitude

/-- The row with the coefficient of a term entered at the term's variable. -/
def enter (term : Term) (row : List Int) : Except Failure (List Int) := do
  let coefficient ← term.coefficient
  let index ← variableIndex term.variableText
  if 1 ≤ index ∧ index ≤ row.length then
    return row.set (index - 1) coefficient
  else
    throw (.variableOutOfRange index row.length)

end Term

/-- A row of coefficients, and the failure of the first term not entered in it, if any. -/
structure FilledRow where
  row : List Int
  failure : Option Failure
  deriving Repr, DecidableEq

namespace FilledRow

/-- Enter terms into a row, in order, up to the first that fails. -/
def enterAll (row : List Int) : List Term → FilledRow
  | [] => ⟨row, none⟩
  | term :: rest =>
      match term.enter row with
      | .ok entered => enterAll entered rest
      | .error failure => ⟨row, some failure⟩

/-- The row, unless some term could not be entered. -/
def complete (filled : FilledRow) : Except Failure (List Int) :=
  match filled.failure with
  | none => .ok filled.row
  | some failure => .error failure

end FilledRow

/-- Enter the terms among the tokens of a line into a row. -/
def fillCoefficients (tokens : List Token) (row : List Int) : FilledRow :=
  .enterAll row (Term.ofTokens tokens)

/-- The coefficients of a line in a problem with a given number of variables. -/
def coefficients (width : Nat) (tokens : List Token) : Except Failure (List Int) :=
  (fillCoefficients tokens (List.replicate width 0)).complete

end LinearProgram
