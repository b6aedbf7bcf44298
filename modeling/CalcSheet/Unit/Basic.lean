import CalcSheet.Bindings
import CalcSheet.Scalar.Arithmetic
import CalcSheet.Scalar.Text
import CalcSheet.Unit.Dimensions

/-!
# Physical units

A unit is a dimension, a factor to base units and the symbols it is displayed with. Units multiply,
divide and have integer powers; the symbols follow by adding exponents, and cancelled ones vanish.
-/
namespace CalcSheet

/-- The number of significant digits of every calculation. -/
def workingPrecision : Nat := 50

/-- A value in this unit times `factor` is the value in base units. -/
structure PhysicalUnit where
  dimensions : Dimensions
  factor : Scalar
  symbols : List (Text × Int)
  deriving DecidableEq, Repr

namespace PhysicalUnit

def IsDimensionless (u : PhysicalUnit) : Prop := u.dimensions = .none

instance (u : PhysicalUnit) : Decidable u.IsDimensionless :=
  inferInstanceAs (Decidable (u.dimensions = .none))

/-- The dimensions of an optional unit; without a unit there are none. -/
def dimensionsOf : Option PhysicalUnit → Dimensions
  | some u => u.dimensions
  | none => .none

/-- Add `e` to the exponent of a symbol; a new symbol comes last. -/
def addExponent (symbol : Text) (e : Int) : List (Text × Int) → List (Text × Int)
  | [] => [(symbol, e)]
  | (s, d) :: rest =>
      if s = symbol then (s, d + e) :: rest else (s, d) :: addExponent symbol e rest

/-- The symbols of a product of `left` with the `sign`-th power of `right`. Of a symbol that stands
in `left` several times the last exponent counts. -/
def mergeSymbols (left right : List (Text × Int)) (sign : Int) : List (Text × Int) :=
  let merged := right.foldl (fun merged (s, e) => addExponent s (sign * e) merged)
    (Bindings.ofPairs left)
  merged.filter (·.2 ≠ 0)

def mul (u w : PhysicalUnit) : Except Decimal.Signal PhysicalUnit := do
  let factor ← u.factor.mul workingPrecision w.factor
  pure ⟨u.dimensions.add w.dimensions, factor, mergeSymbols u.symbols w.symbols 1⟩

def div (u w : PhysicalUnit) : Except Decimal.Signal PhysicalUnit := do
  let factor ← u.factor.div workingPrecision w.factor
  pure ⟨u.dimensions.sub w.dimensions, factor, mergeSymbols u.symbols w.symbols (-1)⟩

def pow (u : PhysicalUnit) (n : Int) : Except Decimal.Signal PhysicalUnit := do
  let factor ← u.factor.pow workingPrecision (.ofInt n)
  pure ⟨u.dimensions.scale n, factor,
    (u.symbols.map fun (s, e) => (s, e * n)).filter (·.2 ≠ 0)⟩

/-- A symbol with its exponent, which is left out when it is one. -/
def symbolPower (symbol : Text) (e : Int) : Text :=
  if e = 1 then symbol else symbol ++ '^' :: Digits.signed e

/-- Texts joined by a separator. -/
def joined (separator : Text) : List Text → Text
  | [] => []
  | [t] => t
  | t :: rest => t ++ separator ++ joined separator rest

/-- Symbols as a product over a chain of divisions: `kg*m/s^2`. Without a positive exponent all are
written as powers: `s^-1`. -/
def renderSymbols (symbols : List (Text × Int)) : Text :=
  let numerator := symbols.filter (0 < ·.2)
  let denominator := symbols.filter (·.2 < 0)
  if numerator.isEmpty then
    joined ['*'] (symbols.map fun (s, e) => s ++ '^' :: Digits.signed e)
  else
    joined ['*'] (numerator.map fun (s, e) => symbolPower s e)
      ++ denominator.flatMap fun (s, e) => '/' :: symbolPower s (-e)

def text (u : PhysicalUnit) : Text := renderSymbols u.symbols

instance : ToString PhysicalUnit := ⟨fun u => String.ofList u.text⟩

/-- Whether the exponents of all symbols can be written. -/
def IsWritable (u : PhysicalUnit) : Prop := ∀ s ∈ u.symbols, Digits.IsWritable s.2

instance (u : PhysicalUnit) : Decidable u.IsWritable := inferInstanceAs (Decidable (∀ _ ∈ _, _))

/-- Why a value cannot be rescaled from one unit to another. -/
inductive ConversionFault where
  | incompatible (source target : Option PhysicalUnit)
  | signal (s : Decimal.Signal)
  deriving DecidableEq, Repr

/-- How many of `target` make one of `source`; equal factors give exactly one. -/
def conversionFactor (source target : Option PhysicalUnit) : Except ConversionFault Scalar :=
  if dimensionsOf source ≠ dimensionsOf target then .error (.incompatible source target)
  else
    let factorOf (u : Option PhysicalUnit) := (u.map (·.factor)).getD .one
    let factor : Except Decimal.Signal Scalar := do
      if ← (factorOf source).equal (factorOf target) then pure .one
      else (factorOf source).div workingPrecision (factorOf target)
    factor.mapError .signal

end PhysicalUnit
end CalcSheet
