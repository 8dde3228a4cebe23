import LinearProgram.Line.Lexeme

namespace LinearProgram

/-!
# The parts of objective and constraint lines

What the checks of a line look for and what its matrices are made of: the
direction of an objective, the relation and the right-hand side of a
constraint, and the balance between signs and variables.
-/

/-- Whether some token has the given kind. -/
def hasKind (kind : TokenKind) (tokens : List Token) : Bool :=
  tokens.any fun token => token.kind == kind

/-- Whether a line consists of the terminator alone. -/
def isTerminatorLine (tokens : List Token) : Bool :=
  tokens.map Token.kind == [.terminator, .finish]

/-- The direction of an objective; minimization counts first. -/
def direction? (tokens : List Token) : Option Direction :=
  if hasKind (.direction .min) tokens then
    some .min
  else if hasKind (.direction .max) tokens then
    some .max
  else
    none

/-- The first relation of a constraint. -/
def relation? (tokens : List Token) : Option Relation :=
  tokens.findSome? fun token => token.kind.relation?

/-- The integer right after the first relation that an integer follows. -/
def rightHandSide? : List Token → Option Token
  | first :: second :: rest =>
      if first.kind.isRelation && second.kind == .integer then
        some second
      else
        rightHandSide? (second :: rest)
  | _ => none

/-- The number of signs among the tokens of a line. -/
def signCount (tokens : List Token) : Nat :=
  tokens.countP fun token => token.kind.isSign

/-- The number of variables among the tokens of a line. -/
def variableCount (tokens : List Token) : Nat :=
  tokens.countP fun token => token.kind == .variable

/-- Whether a line has a sign for each variable, which its first term may do without. -/
def signsBalance (tokens : List Token) : Bool :=
  signCount tokens ≤ variableCount tokens && variableCount tokens ≤ signCount tokens + 1

end LinearProgram
