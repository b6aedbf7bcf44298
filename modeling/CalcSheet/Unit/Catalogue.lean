import CalcSheet.Unit.Basic
import CalcSheet.Unit.Catalogue.Electricity
import CalcSheet.Unit.Catalogue.Matter
import CalcSheet.Unit.Catalogue.Mechanics
import CalcSheet.Unit.Catalogue.Motion
import CalcSheet.Unit.Catalogue.Number
import CalcSheet.Unit.Catalogue.Space

/-!
# The unit catalogue

Which names are units. Some names are known but refused: scales that do not multiply, units
outside the eight base dimensions or with fractional exponents, and everyday words.
-/
namespace CalcSheet

/-- Why a name is not a unit that can be calculated with. -/
inductive NameFault where
  | everydayWord
  | unknown
  | outsideDimensions (dimension : String)
  | notMultiplicative
  | fractionalExponent
  | unreadable
  deriving DecidableEq, Repr

namespace Catalogue

/-- All units. -/
def entries : List Entry := space ++ motion ++ mechanics ++ electricity ++ matter ++ number

/-- Words of ordinary text that would otherwise be units. -/
def everydayWords : List String := ["a", "are", "as", "at"]

/-- Spellings that stand for the name of a unit. -/
def aliases : List (String × String) :=
  [("lbs", "lb"), ("hrs", "hr"), ("mins", "min"), ("secs", "s")]

/-- Temperature scales with a zero of their own and logarithmic scales. -/
def notMultiplicative : List String :=
  ["degree_Celsius", "celsius", "degC", "degreeC", "degree_Fahrenheit", "fahrenheit", "degF",
   "degreeF", "degree_Reaumur", "reaumur", "degRe", "degreeRe", "degree_Réaumur", "réaumur",
   "decibelwatt", "dBW", "decibelmilliwatt", "dBm", "decibelmicrowatt", "dBu", "decibel", "dB",
   "decade", "octave", "oct", "neper", "Np"]

/-- Units of printing, which have a dimension of their own. -/
def printing : List String :=
  ["pixel", "dot", "pel", "picture_element", "pixels_per_centimeter", "PPCM", "pixels_per_inch",
   "dots_per_inch", "PPI", "ppi", "DPI", "printers_dpi", "bits_per_pixel", "bpp"]

/-- Units of the Gaussian system, whose exponents are halves. -/
def fractional : List String :=
  ["franklin", "Fr", "statcoulomb", "statC", "esu", "statvolt", "statV", "statampere", "statA",
   "gauss", "G", "maxwell", "Mx", "oersted", "Oe", "ørsted", "statweber", "statWb", "stattesla",
   "statT", "kG"]

/-- Names that cannot be read as a unit at all. -/
def unreadable : List String :=
  ["dimensionless", "mdegC", "nan", "²", "²m", "²x", "½", "½m", "½x", "①"]

def Entry.toUnit (e : Entry) : PhysicalUnit :=
  ⟨e.dimensions, .finite e.factor, [(e.symbol.toList, 1)]⟩

/-- The unit of a name, case and all. -/
def find (name : Text) : Except NameFault PhysicalUnit :=
  let name := String.ofList name
  if name ∈ everydayWords then .error .everydayWord
  else
    let name := (aliases.lookup name).getD name
    match entries.find? fun e => e.names.contains name with
    | some e => .ok e.toUnit
    | none =>
        if name ∈ notMultiplicative then .error .notMultiplicative
        else if name ∈ printing then .error (.outsideDimensions "[printing_unit]")
        else if name ∈ fractional then .error .fractionalExponent
        else if name ∈ unreadable then .error .unreadable
        else .error .unknown

end Catalogue
end CalcSheet
