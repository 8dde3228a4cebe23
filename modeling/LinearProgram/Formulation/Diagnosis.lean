import LinearProgram.Failure
import LinearProgram.Line.Parts

namespace LinearProgram.Formulation

/-!
# The diagnosis of a problem's lines

The first line is the objective, the lines after it are constraints up to the
first line that consists of the terminator alone. Every check is made, so one
diagnosis reports all errors, in a fixed order and each at most once.
-/

/-- An error in the lines of a problem. -/
inductive Diagnostic where
  | missingDirection
  | ambiguousDirection
  | missingInitializer
  | missingTerminator
  | missingRelation
  | missingRightHandSide
  | missingSign
  deriving Repr, DecidableEq

/-- What a diagnostic says to a user. -/
def Diagnostic.message : Diagnostic → String
  | .missingDirection => "Min/Max is not specified for object function"
  | .ambiguousDirection => "Optimization way is ambiguous. Use either min or max."
  | .missingInitializer => "Constraint initializer 's.t' or similar is missing"
  | .missingTerminator => "No END statement found"
  | .missingRelation => "Constraint type missing from some constraints"
  | .missingRightHandSide => "Right side argument missing from some constraints"
  | .missingSign => "Sign missing from some factors"

/-- The diagnostics in the order in which they are reported. -/
def Diagnostic.all : List Diagnostic :=
  [.missingDirection, .ambiguousDirection, .missingInitializer, .missingTerminator,
    .missingRelation, .missingRightHandSide, .missingSign]

/-- The tokens of a problem, line by line. -/
structure Outline where
  objective : List Token
  /-- All lines behind the objective. -/
  following : List (List Token)
  deriving Repr, DecidableEq

namespace Outline

/-- The number of constraints in front of the terminator. -/
def terminator? (outline : Outline) : Option Nat :=
  outline.following.findIdx? isTerminatorLine

/-- The lines behind the objective up to the terminator. -/
def constraints (outline : Outline) : List (List Token) :=
  match outline.terminator? with
  | some count => outline.following.take count
  | none => outline.following

/-- Whether an error is present. -/
def shows (outline : Outline) : Diagnostic → Bool
  | .missingDirection =>
      !hasKind (.direction .min) outline.objective &&
        !hasKind (.direction .max) outline.objective
  | .ambiguousDirection =>
      hasKind (.direction .min) outline.objective &&
        hasKind (.direction .max) outline.objective
  | .missingInitializer => !outline.following.head?.any (hasKind .initializer)
  | .missingTerminator => outline.terminator?.isNone
  | .missingRelation => outline.constraints.any fun tokens => (relation? tokens).isNone
  | .missingRightHandSide =>
      outline.constraints.any fun tokens => (rightHandSide? tokens).isNone
  | .missingSign =>
      (outline.objective :: outline.constraints).any fun tokens => !signsBalance tokens

/-- The errors that are present, in the order in which they are reported. -/
def diagnostics (outline : Outline) : List Diagnostic :=
  Diagnostic.all.filter outline.shows

end Outline

/-- The outcome of checking the lines of a problem. -/
structure Diagnosis where
  diagnostics : List Diagnostic
  /-- The index of the terminator among the lines. -/
  terminator : Option Nat
  /-- The lines in front of the terminator. -/
  lines : List String
  deriving Repr, DecidableEq

/-- Check the lines of a problem and cut them at the terminator. -/
def diagnose : List String → Except Failure Diagnosis
  | [] => .error .emptyProblem
  | objective :: following =>
      let outline : Outline := ⟨tokenize objective, following.map tokenize⟩
      match outline.terminator? with
      | some count =>
          .ok ⟨outline.diagnostics, some (count + 1), objective :: following.take count⟩
      | none => .ok ⟨outline.diagnostics, none, objective :: following⟩

/-- A report of errors: their number, and each of them on a line of its own. -/
def report (messages : List String) : String :=
  s!"[{messages.length}] errors detected" ++
    String.join (messages.map fun message => "\n-" ++ message)

end LinearProgram.Formulation
