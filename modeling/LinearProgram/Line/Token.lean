import LinearProgram.Problem.Codes

namespace LinearProgram

/-!
# Tokens of a problem line

A token is a classified stretch of a line. Its span is counted in bytes of the
line's UTF-8 encoding, which is how an editor addresses the line.
-/

/-- The sign of a term. -/
inductive Sign where
  | plus
  | minus
  deriving Repr, DecidableEq

/-- What a stretch of a line is. -/
inductive TokenKind where
  /-- A `min` or `max` keyword. -/
  | direction : Direction → TokenKind
  /-- A keyword that introduces the constraints. -/
  | initializer : TokenKind
  /-- The `end` keyword. -/
  | terminator : TokenKind
  /-- A run of digits. -/
  | integer : TokenKind
  /-- An `x` with its index. -/
  | variable : TokenKind
  | sign : Sign → TokenKind
  | relation : Relation → TokenKind
  /-- Letters that are neither a keyword nor part of a variable. -/
  | word : TokenKind
  /-- A character that has no place in a line. -/
  | stray : TokenKind
  /-- The end of the line. -/
  | finish : TokenKind
  deriving Repr, DecidableEq

namespace TokenKind

/-- Whether a token is the sign of a term. -/
def isSign : TokenKind → Bool
  | .sign _ => true
  | _ => false

/-- The relation that a token stands for. -/
def relation? : TokenKind → Option Relation
  | .relation found => some found
  | _ => none

/-- Whether a token stands for a relation. -/
def isRelation (kind : TokenKind) : Bool :=
  kind.relation?.isSome

end TokenKind

/-- A classified stretch of a line with its text. -/
structure Token where
  kind : TokenKind
  start : Nat
  stop : Nat
  text : String
  deriving Repr, DecidableEq

end LinearProgram
