import CalcSheet.Decimal.Arithmetic

/-!
# Exponentials and logarithms

Both are computed in fixed point: a real number `t` is held as the integer nearest to `t * scale`
from below, up to a few units. `log` and `exp` round the true value to a number of digits. They
take more and more digits into the calculation, until its error no longer shows in the rounding.
-/
namespace CalcSheet.Decimal

namespace FixedPoint

/-- `power / j + power * z² / (j + 2) + …`, the tail of the series of the inverse hyperbolic
tangent; `zSquared` is `z² * scale`. -/
def artanhTail (scale zSquared : Nat) : Nat → Nat → Nat → Nat
  | 0, _, _ => 0
  | terms + 1, j, power =>
      if power = 0 then 0
      else power / j + artanhTail scale zSquared terms (j + 2) (power * zSquared / scale)

/-- The inverse hyperbolic tangent of a `z` between zero and six tenths, for a scale of `digits`
digits. -/
def artanh (digits scale z : Nat) : Nat :=
  artanhTail scale (z * z / scale) (4 * digits + 4) 1 z

/-- The natural logarithm of ten, from `10 = 2 ^ 3 * 5 / 4`. -/
def logTen (digits scale : Nat) : Nat :=
  6 * artanh digits scale (scale / 3) + 2 * artanh digits scale (scale / 9)

/-- The natural logarithm of `x > 0`, with `digits` digits behind the point. -/
def log (digits : Nat) (x : Decimal) : Int :=
  let leading := Digits.count x.coefficient - 1
  -- a logarithm of many digits before the point takes as many more behind it
  let spare := Digits.count x.order.natAbs + 1
  let scale := Digits.tenPow (digits + spare)
  -- the mantissa lies between one and ten; above three it is taken as a tenth of itself
  let m := x.coefficient * scale / Digits.tenPow leading
  let (m, tens) := if 3 * scale < m then (m / 10, x.order + 1) else (m, x.order)
  let z := (if scale ≤ m then m - scale else scale - m) * scale / (m + scale)
  let logMantissa : Int := 2 * artanh (digits + spare) scale z
  let sum := (if scale ≤ m then logMantissa else -logMantissa)
    + (if tens = 0 then 0 else tens * logTen (digits + spare) scale)
  sum / Digits.tenPow spare

/-- `term + term * t / j + term * t² / (j * (j + 1)) + …`, the tail of the exponential series. -/
def expTail (scale t : Nat) : Nat → Nat → Nat → Nat
  | 0, _, _ => 0
  | terms + 1, j, term =>
      if term = 0 then 0
      else term + expTail scale t terms (j + 1) (term * t / (scale * j))

/-- The exponential of `t`: a number from one to ten, with `digits` digits behind the point, and a
power of ten. -/
def exp (digits : Nat) (t : Decimal) : Nat × Int :=
  let spare := (t.order + 2).toNat
  let scale := Digits.tenPow (digits + spare)
  let shift := t.exponent + (digits + spare : Nat)
  let scaled : Int :=
    if 0 ≤ shift then t.signedCoefficient * Digits.tenPow shift.toNat
    else t.signedCoefficient / Digits.tenPow (-shift).toNat
  let ten := logTen (digits + spare) scale
  let mantissa := expTail scale (scaled % ten).toNat (4 * (digits + spare) + 40) 1 scale
  (mantissa / Digits.tenPow spare, scaled / ten)

end FixedPoint

/-- A bound on the error of the calculations in fixed point, in units of their last digit. -/
def slack : Nat := Digits.tenPow 8

/-- Round the value that `approximate` comes close to. An approximation of so many guard digits is
good enough if all numbers within its error round alike; otherwise it takes twice as many. -/
def refine (p : Nat) (approximate : Nat → Decimal) : Nat → Nat → Decimal
  | 0, guard => nearest p (approximate guard)
  | retries + 1, guard =>
      let x := approximate guard
      let low := nearest p { x with coefficient := x.coefficient - slack }
      let high := nearest p { x with coefficient := x.coefficient + slack }
      if low = high then low else refine p approximate retries (2 * guard)

/-- A lower bound on the decimal order of the logarithm of `|x|`, for `|x|` other than zero and
one. -/
def logOrder (x : Decimal) : Int :=
  if 0 < x.order then (Digits.count x.order.toNat : Int) - 1
  else if x.order < -1 then (Digits.count (-(x.order + 1)).toNat : Int) - 1
  else
    let distance := x.abs.scaledTo x.exponent - one.scaledTo x.exponent
    (⟨false, distance.natAbs, x.exponent⟩ : Decimal).order - 2

/-- The natural logarithm of an `x > 0` other than one, to `p` significant digits. -/
def log (p : Nat) (x : Decimal) : Decimal :=
  let approximate (guard : Nat) : Decimal :=
    let digits := (p + guard - x.logOrder).toNat
    let value := FixedPoint.log digits x
    ⟨decide (value < 0), value.natAbs, -(digits : Int)⟩
  refine p approximate 12 20

/-- The exponential of `t`, to `p` significant digits. For a `t` too close to zero it is one. -/
def exp (p : Nat) (t : Decimal) : Decimal :=
  if t.IsZero ∨ t.order < -(p + 2 : Int) then paddedOne false (p - 1)
  else
    let approximate (guard : Nat) : Decimal :=
      let (c, e) := FixedPoint.exp (p + guard) t
      ⟨false, c, e - (p + guard : Nat)⟩
    refine p approximate 12 20

end CalcSheet.Decimal
