import CalcSheet.Report
import CalcSheet.Sheet.Journal
import CalcSheet.Sheet.Selection
import CalcSheet.Unit.Registry
import CalcSheet.Scalar.Arithmetic
import CalcSheet.Scalar.Text
import CalcSheet.Proofs.Evaluation.Containment
import CalcSheet.Proofs.Evaluation.Integers
import CalcSheet.Proofs.Sheet.Removal
import CalcSheet.Proofs.Sheet.Saving
import CalcSheet.Proofs.Sheet.Replacement
import CalcSheet.Proofs.Evaluation.Brackets
import CalcSheet.Proofs.Sheet.Showing
import CalcSheet.Proofs.Token.NamesInUnits
import CalcSheet.Proofs.Evaluation.Dimensions
import CalcSheet.Proofs.Evaluation.Magnitudes
import CalcSheet.Proofs.Sheet.Requests
import CalcSheet.Proofs.Sheet.Resaving
import CalcSheet.Proofs.Postfix.Cuts
import CalcSheet.Proofs.Postfix.Conservation
import CalcSheet.Proofs.Postfix.Gaps
import CalcSheet.Proofs.Postfix.StackSafety
import CalcSheet.Proofs.Unit.Rendering
import CalcSheet.Proofs.Unit.Remembering
import CalcSheet.Proofs.Evaluation.Differences
import CalcSheet.Proofs.Evaluation.Conversions
import CalcSheet.Proofs.Sheet.RoundTrips
import CalcSheet.Proofs.Sheet.References
import CalcSheet.Proofs.Sheet.SumAssignments
import CalcSheet.Proofs.Matrix.Typing
import CalcSheet.Proofs.Matrix.Powers
import CalcSheet.Proofs.Sheet.UnitTexts
import CalcSheet.Proofs.Unit.Algebra
import CalcSheet.Proofs.Display.Rereading
import CalcSheet.Proofs.Sheet.RequestedUnits
import CalcSheet.Proofs.Display.Columns
import CalcSheet.Proofs.Highlight.Brackets
