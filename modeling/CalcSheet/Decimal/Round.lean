import CalcSheet.Decimal.Basic

/-!
# Rounding and the exponent range

Every operation computes an exact value, or one that rounds like it, and rounds once with `round`:
to a number of significant digits, to the nearest value, a tie going to the even coefficient.
Results below the exponent range lose digits down to zero; results above it signal `overflow`.
-/
namespace CalcSheet.Decimal

/-- What an operation reports when it has no result. -/
inductive Signal where
  | invalidOperation
  | divisionByZero
  | overflow
  deriving DecidableEq, Repr

/-- Which neighbour a tie goes to. -/
inductive Tie where
  | toEven
  | awayFromZero
  deriving DecidableEq, Repr

/-- The natural number nearest to `n / d`. -/
def divNearest (tie : Tie) (n d : Nat) : Nat :=
  let q := n / d
  let twice := 2 * (n % d)
  if twice < d then q
  else if d < twice then q + 1
  else match tie with
    | .awayFromZero => q + 1
    | .toEven => if q % 2 = 0 then q else q + 1

/-- The coefficient nearest to `c / 10 ^ k`. -/
def dropDigits (tie : Tie) (c k : Nat) : Nat :=
  if Digits.count c < k then 0 else divNearest tie c (Digits.tenPow k)

/-- The largest exponent a leading digit may have. -/
def maxOrder : Int := 999999

/-- The smallest exponent a leading digit may have at full precision. -/
def minOrder : Int := -999999

/-- The smallest exponent of a coefficient at precision `p`. -/
def minExponent (p : Nat) : Int := minOrder - (p - 1)

/-- Round `x` to `p` significant digits, none of which stands below the exponent `least`. -/
def roundAbove (p : Nat) (least : Int) (x : Decimal) : Decimal :=
  let e := max x.exponent (max least (x.exponent + Digits.count x.coefficient - p))
  let c := dropDigits .toEven x.coefficient (e - x.exponent).toNat
  if p < Digits.count c then ⟨x.negative, c / 10, e + 1⟩ else ⟨x.negative, c, e⟩

/-- The number of `p` significant digits that is nearest to `x`, whatever its exponent. -/
def nearest (p : Nat) (x : Decimal) : Decimal := roundAbove p x.exponent x

/-- Round `x` to `p` significant digits within the exponent range. -/
def round (p : Nat) (x : Decimal) : Except Signal Decimal :=
  if x.IsZero then
    .ok { x with exponent := min maxOrder (max (minExponent p) x.exponent) }
  else
    let y := roundAbove p (minExponent p) x
    if ¬ y.IsZero ∧ maxOrder < y.order then .error .overflow else .ok y

/-- Write `x` with exponent `e`, rounding where digits are lost. The result must fit `p` digits
and the exponent range. -/
def quantize (p : Nat) (tie : Tie) (x : Decimal) (e : Int) : Except Signal Decimal :=
  if maxOrder < e ∨ e < minExponent p then .error .invalidOperation
  else if x.IsZero then .ok ⟨x.negative, 0, e⟩
  else if maxOrder < x.order ∨ (p : Int) < Digits.count x.coefficient + (x.exponent - e) then
    .error .invalidOperation
  else
    let c :=
      if e ≤ x.exponent then x.coefficient * Digits.tenPow (x.exponent - e).toNat
      else dropDigits tie x.coefficient (e - x.exponent).toNat
    let y : Decimal := ⟨x.negative, c, e⟩
    if p < Digits.count c ∨ maxOrder < y.order then .error .invalidOperation else .ok y

end CalcSheet.Decimal
