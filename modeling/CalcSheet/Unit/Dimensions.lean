import CalcSheet.Digits

/-!
# Dimensions

A physical dimension is a vector of integer exponents over eight base dimensions.
-/
namespace CalcSheet

/-- The exponents of the base dimensions. -/
structure Dimensions where
  length : Int
  mass : Int
  time : Int
  current : Int
  temperature : Int
  substance : Int
  luminosity : Int
  information : Int
  deriving DecidableEq, Repr

namespace Dimensions

/-- No dimension at all: every exponent is zero. -/
def none : Dimensions := ⟨0, 0, 0, 0, 0, 0, 0, 0⟩

def toList (d : Dimensions) : List Int :=
  [d.length, d.mass, d.time, d.current, d.temperature, d.substance, d.luminosity, d.information]

/-- Whether all exponents can be written. -/
def IsWritable (d : Dimensions) : Prop := ∀ n ∈ d.toList, Digits.IsWritable n

instance (d : Dimensions) : Decidable d.IsWritable := inferInstanceAs (Decidable (∀ _ ∈ _, _))

def add (d e : Dimensions) : Dimensions :=
  ⟨d.length + e.length, d.mass + e.mass, d.time + e.time, d.current + e.current,
    d.temperature + e.temperature, d.substance + e.substance, d.luminosity + e.luminosity,
    d.information + e.information⟩

def sub (d e : Dimensions) : Dimensions :=
  ⟨d.length - e.length, d.mass - e.mass, d.time - e.time, d.current - e.current,
    d.temperature - e.temperature, d.substance - e.substance, d.luminosity - e.luminosity,
    d.information - e.information⟩

def scale (d : Dimensions) (n : Int) : Dimensions :=
  ⟨d.length * n, d.mass * n, d.time * n, d.current * n, d.temperature * n, d.substance * n,
    d.luminosity * n, d.information * n⟩

end Dimensions
end CalcSheet
