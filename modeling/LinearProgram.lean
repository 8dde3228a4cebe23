import LinearProgram.Main
import LinearProgram.Workspace
import LinearProgram.Proofs.Problem.Duality
import LinearProgram.Proofs.Dump.Parts
import LinearProgram.Proofs.Dump.Layout
import LinearProgram.Proofs.Dump.RoundTrip
import LinearProgram.Proofs.Dump.Truncation
import LinearProgram.Proofs.Dump.Duals
import LinearProgram.Proofs.Dump.LineEnds
import LinearProgram.Proofs.Line.Shape
import LinearProgram.Proofs.Line.Interior
import LinearProgram.Proofs.Line.Scan
import LinearProgram.Proofs.Line.Parts
import LinearProgram.Proofs.Line.Numbers
import LinearProgram.Proofs.Line.Entries
import LinearProgram.Proofs.Formulation.Diagnosis
import LinearProgram.Proofs.Formulation.CleanCheck
import LinearProgram.Proofs.Formulation.Dimensions
import LinearProgram.Proofs.Formulation.Building
import LinearProgram.Proofs.Formulation.SoundDraft
import LinearProgram.Proofs.Grammar.Problem
import LinearProgram.Proofs.Grammar.Spelling
import LinearProgram.Proofs.Grammar.Reading
import LinearProgram.Proofs.Grammar.Meaning
import LinearProgram.Proofs.Grammar.Layout
import LinearProgram.Proofs.Grammar.Pipeline
import LinearProgram.Proofs.Workspace.Invariant
import LinearProgram.Proofs.Workspace.Building
import LinearProgram.Proofs.Workspace.Files
import LinearProgram.Proofs.Workspace.Traces
import LinearProgram.Proofs.Formulation.Accessors
import LinearProgram.Proofs.Workspace.Accessors
import LinearProgram.Proofs.Line.Respelling
import LinearProgram.Proofs.Line.SameOutcome
import LinearProgram.Proofs.Formulation.Respelling
import LinearProgram.Proofs.Command.Agreement
import LinearProgram.Proofs.Command.Arguments
import LinearProgram.Proofs.Formulation.Recheck
import LinearProgram.Proofs.Line.Context
import LinearProgram.Proofs.Problem.DoubleDual
import LinearProgram.Proofs.Line.Seam
import LinearProgram.Proofs.Line.Finds
import LinearProgram.Proofs.Workspace.Recheck
import LinearProgram.Proofs.Line.Places
import LinearProgram.Proofs.Line.Tiling
import LinearProgram.Proofs.Formulation.Normal
import LinearProgram.Proofs.Workspace.Opening
import LinearProgram.Proofs.Formulation.Rearrangement
import LinearProgram.Proofs.Formulation.Widest
import LinearProgram.Proofs.Formulation.ExactNumbers
import LinearProgram.Proofs.Formulation.Signs
