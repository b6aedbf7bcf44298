import CalcSheet.Decimal.Basic
import CalcSheet.Unit.Dimensions

/-!
# Entries of the unit catalogue

An entry is one unit as it is displayed, with every name that is read as it. One unit may have
several entries with the same symbol, whose factors were rounded to different lengths.
-/
namespace CalcSheet.Catalogue

/-- A unit known by name: one `names` equals `factor` base units of these dimensions. -/
structure Entry where
  symbol : String
  factor : Decimal
  dimensions : Dimensions
  names : List String
  deriving Repr

/-- Entries of the same dimensions, each given by its symbol, the signed coefficient and the
exponent of its factor, and its names. -/
def block (d : Dimensions) (rows : List (String × Int × Int × List String)) : List Entry :=
  rows.map fun (symbol, c, e, names) => ⟨symbol, ⟨decide (c < 0), c.natAbs, e⟩, d, names⟩

end CalcSheet.Catalogue
