import LinearProgram.Formulation.Query

namespace LinearProgram

/-!
# Drafts

A draft is a formulation that is worked on. A check changes its lines and what
is known of them; the dimensions are kept once they have been worked out, until
the next check. Everything that is asked gives an outcome together with the
draft that it leaves, whether it succeeds or fails.
-/

/-- A formulation that is worked on. -/
structure Draft where
  lines : List String
  /-- The errors that the last check found. -/
  diagnostics : List Formulation.Diagnostic
  /-- The index of the terminator that was found last. -/
  terminator : Option Nat
  /-- Whether the lines have been checked. -/
  checked : Bool
  /-- The dimensions, once they have been worked out. -/
  known : Option Formulation.Dimensions
  deriving Repr, DecidableEq

namespace Draft

/-- The draft with the given lines, not checked yet. -/
def ofLines (lines : List String) : Draft :=
  ⟨lines, [], none, false, none⟩

/-- The formulation that a draft has reached. -/
def formulation (draft : Draft) : Formulation :=
  ⟨draft.lines, if draft.checked then some draft.diagnostics else none, draft.terminator⟩

/--
Check the lines. What the last check found is forgotten even if this one fails,
and a terminator that was found before stays unless another one is found.
-/
def check (draft : Draft) : Except Failure (List Formulation.Diagnostic) × Draft :=
  let cleared := { draft with diagnostics := [], known := none }
  match Formulation.diagnose cleared.lines with
  | .error failure => (.error failure, cleared)
  | .ok diagnosis =>
      (.ok diagnosis.diagnostics,
        { cleared with
          lines := diagnosis.lines
          checked := true
          diagnostics := diagnosis.diagnostics
          terminator := diagnosis.terminator <|> cleared.terminator })

/-- The dimensions of a problem without errors, worked out unless they are known. -/
def dimensions (draft : Draft) : Except Failure Formulation.Dimensions × Draft :=
  match draft.formulation.requireValid with
  | .error failure => (.error failure, draft)
  | .ok () =>
      match draft.known with
      | some dimensions => (.ok dimensions, draft)
      | none =>
          match Formulation.dimensionsOf draft.lines with
          | .error failure => (.error failure, draft)
          | .ok dimensions => (.ok dimensions, { draft with known := some dimensions })

/-- What is made of the dimensions of a problem without errors. -/
def measured
    (draft : Draft)
    (make : Formulation.Dimensions → Except Failure α) : Except Failure α × Draft :=
  let outcome := draft.dimensions
  (outcome.1 >>= make, outcome.2)

/-- The matrices of a problem without errors. -/
def matrices (draft : Draft) : Except Failure Matrices × Draft :=
  draft.measured (Formulation.assemble draft.lines)

/-- The matrices of the dual of a problem without errors. -/
def dualMatrices (draft : Draft) : Except Failure Matrices × Draft :=
  Prod.map (Except.map Matrices.dual) id draft.matrices

/-- The matrices of a problem or of its dual. -/
def matricesOf (draft : Draft) (dual : Bool) : Except Failure Matrices × Draft :=
  if dual then draft.dualMatrices else draft.matrices

/-- One matrix of a problem without errors. -/
def matrix (draft : Draft) (spelling : String) : Except Failure MatrixValue × Draft :=
  match Formulation.matrixName spelling with
  | .error failure => (.error failure, draft)
  | .ok name =>
      draft.measured fun dimensions => Formulation.assembleOne draft.lines dimensions name

/-- One matrix of the dual of a problem without errors. -/
def dualMatrix (draft : Draft) (spelling : String) : Except Failure MatrixValue × Draft :=
  match Formulation.matrixName spelling with
  | .error failure => (.error failure, draft)
  | .ok name =>
      let outcome := draft.dualMatrices
      (outcome.1 >>= fun dual =>
          match dual.get? name with
          | some value => .ok value
          | none => .error (.argument (.notInDual name)),
        outcome.2)

/-- The answer to a question, and the draft that it leaves. -/
def answer (draft : Draft) : Query → Except Failure Answer × Draft
  | .report =>
      (.ok (.text (Formulation.report (draft.diagnostics.map Formulation.Diagnostic.message))),
        draft)
  | .lineVariables line => ((draft.formulation.lineVariables line).map .variableSet, draft)
  | .allVariables => (draft.formulation.allVariables.map .names, draft)
  | .dimensions => Prod.map (Except.map .dimensions) id draft.dimensions
  | .matrix name => Prod.map (Except.map .value) id (draft.matrix name)
  | .dualMatrix name => Prod.map (Except.map .value) id (draft.dualMatrix name)
  | .matrices => Prod.map (Except.map .matrices) id draft.matrices
  | .dualMatrices => Prod.map (Except.map .matrices) id draft.dualMatrices

end Draft

end LinearProgram
