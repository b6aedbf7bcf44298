import CalcSheet.Display.Columns
import CalcSheet.Display.Numeral
import CalcSheet.Value

/-!
# Displayed results

A number is its numeral and its unit. A unit made of several symbols gives way to a named unit of
the same dimensions, unless the line asked for a conversion. A matrix is a grid of such texts.
-/
namespace CalcSheet

/-- A result as text, or as a grid of texts for a matrix, with the lengths of its parts. -/
structure Displayed where
  text : Text
  widths : Widths
  cells : Option (List (List Text))
  deriving DecidableEq, Repr

namespace Displayed

/-- The quantity in the derived unit of its dimensions, where a compound unit has one. -/
def inDerivedUnit (q : Quantity) : Except Decimal.Signal Quantity :=
  match q.unit with
  | none => .ok q
  | some u =>
      if u.symbols.length ≤ 1 then .ok q
      else match u.derived? with
        | none => .ok q
        | some d =>
            match PhysicalUnit.conversionFactor (some u) (some d) with
            | .error (.signal s) => .error s
            | .error _ => .ok q
            | .ok factor => do
                let value ← q.value.mul workingPrecision factor
                pure ⟨value, some d⟩

def numeral (base : Numeral.Base) (places : Int) (x : Scalar) : Except DisplayFault Text :=
  match base with
  | .decimal => Numeral.decimal x places
  | .binary => Numeral.integer 2 x
  | .hexadecimal => Numeral.integer 16 x

/-- What follows the digits: a space and the unit, if there is one with a text. -/
def unitSuffix : Option PhysicalUnit → Except DisplayFault Text
  | none => .ok []
  | some u =>
      if u.IsWritable then .ok (if u.text.isEmpty then [] else ' ' :: u.text)
      else .error .unwritableUnit

/-- The text of a number; `converted` keeps its unit as it is. -/
def number (base : Numeral.Base) (converted : Bool) (places : Int) (q : Quantity) :
    Except DisplayFault Text := do
  let q ← if converted then pure q else (inDerivedUnit q).mapError .signal
  let digits ← numeral base places q.value
  let suffix ← unitSuffix q.unit
  pure (digits ++ suffix)

/-- The grid of texts of a matrix. -/
def grid (base : Numeral.Base) (places : Int) (m : QuantityMatrix) :
    Except DisplayFault (List (List Text)) :=
  m.rowCells.mapM (·.mapM (number base false places))

def ofValue (base : Numeral.Base) (converted : Bool) (places : Int) :
    Value → Except DisplayFault Displayed
  | .number q => do
      let text ← number base converted places q
      pure ⟨text, .ofText text, none⟩
  | .matrix m => do
      let cells ← grid base places m
      pure ⟨[], .ofTexts cells.flatten, some cells⟩

/-- The widest parts of a matrix in decimal numerals. -/
def matrixWidths (places : Int) (m : QuantityMatrix) : Except DisplayFault Widths := do
  let cells ← grid .decimal places m
  pure (.ofTexts cells.flatten)

/-- The widest parts of the matrices that `values` begins with, if it begins with one. -/
def runWidths (places : Int) : List Value → Except DisplayFault (Option Widths)
  | .matrix m :: rest => do
      let first ← matrixWidths places m
      let others ← runWidths places rest
      pure (some ((others.map first.max).getD first))
  | _ => .ok none

end Displayed
end CalcSheet
