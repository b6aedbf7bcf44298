import CalcSheet.Unit.Basic

/-!
# Displayed numerals

Displayed numbers are rounded, a half going away from zero, and never have an exponent. Decimal
numerals lose the zeros at the end of the fraction; a zero has no sign. A NaN is shown by its name,
except in the other bases; an infinity has no numeral.
-/
namespace CalcSheet

/-- Why a result cannot be displayed. -/
inductive DisplayFault where
  | signal (s : Decimal.Signal)
  | precision (digits : Int)
  | tooLong
  | notANumber
  | unwritableUnit
  deriving DecidableEq, Repr

namespace Numeral

/-- How results are displayed. -/
inductive Base where
  | decimal
  | binary
  | hexadecimal
  deriving DecidableEq, Repr

namespace Base

def name : Base → Text
  | decimal => ['d', 'e', 'c']
  | binary => ['b', 'i', 'n']
  | hexadecimal => ['h', 'e', 'x']

def ofName? (name : Text) : Option Base :=
  [decimal, binary, hexadecimal].find? (·.name = name)

end Base

/-- The most digits that a rounding may be precise to. -/
def maxPrecision : Int := 999999999999999999

/-- The most digits that can be held behind the last digit of a number. -/
def maxPadding : Int := 100000000000

/-- The precision that takes in all digits of `x` up to some digits `behind` the point. -/
def precisionOf (x : Scalar) (behind : Int) : Except DisplayFault Nat :=
  let digits := max (workingPrecision : Int) (x.order + behind + 2)
  if maxPrecision < digits then .error (.precision digits) else .ok digits.toNat

/-- The exponent of the last place shown. A place beyond the exponent range signals `overflow`, one
far beyond it is invalid. -/
def lastPlace (precision : Nat) (places : Int) : Except Decimal.Signal Int :=
  if 2 * (Decimal.maxOrder + precision) < places.natAbs then .error .invalidOperation
  else if Decimal.maxOrder < -places then .error .overflow
  else .ok (max (Decimal.minExponent precision) (-places))

/-- Drop the zeros at the end of a fraction, and the point if nothing is left behind it. -/
def trimFraction (t : Text) : Text :=
  if t.contains '.' then
    ((t.reverse.dropWhile (· = '0')).dropWhile (· = '.')).reverse
  else t

/-- Round to the exponent `e`, or to that of `x` where only zeros would follow the last digit of its
fraction. -/
def roundTo (precision : Nat) (x : Scalar) (e : Int) : Except DisplayFault Scalar :=
  match x with
  | .finite y =>
      if ¬ y.IsZero ∧ maxPadding < y.exponent - e then .error .tooLong
      else
        (x.quantize precision .awayFromZero (max e (min 0 y.exponent))).mapError .signal
  | x => (x.quantize precision .awayFromZero e).mapError .signal

/-- The numeral of `x` with at most `places` digits behind the point; negative places are zeros
before it. -/
def decimal (x : Scalar) (places : Int) : Except DisplayFault Text := do
  let precision ← precisionOf x places
  let e ← (lastPlace precision places).mapError .signal
  let rounded ← roundTo precision x e
  pure (rounded.textBy fun y => if y.IsZero then ['0'] else trimFraction y.plain)

/-- The numeral of `x`, rounded to an integer, in another base. -/
def integer (base : Nat) (x : Scalar) : Except DisplayFault Text := do
  let precision ← precisionOf x 0
  match ← roundTo precision x 0 with
  | .finite y =>
      let digits := Digits.text base y.coefficient
      pure (if y.IsNegative then '-' :: digits else digits)
  | _ => .error .notANumber

end Numeral
end CalcSheet
