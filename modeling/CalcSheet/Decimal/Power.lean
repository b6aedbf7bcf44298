import CalcSheet.Decimal.Exponential

/-!
# Powers

Integer powers are repeated products with guard digits, so a power that fits the precision is
exact and keeps its exponent. Other powers are `exp (y * log x)` with guard digits of their own.
-/
namespace CalcSheet.Decimal

/-- `x ^ n` for `0 < n < 2 ^ (bits + 1)`, from the leading bit of `n` down. -/
def powNat (p : Nat) (x : Decimal) : Nat → Nat → Except Signal Decimal
  | 0, _ => .ok x
  | bits + 1, n =>
      if n ≤ 1 then .ok x
      else do
        let root ← powNat p x bits (n / 2)
        let square ← mul p root root
        if n % 2 = 0 then .ok square else mul p square x

/-- `result * x ^ n` for `n < 2 ^ bits`, from the last bit of `n` up. -/
def powFrom (p : Nat) : Nat → Nat → Decimal → Decimal → Except Signal Decimal
  | 0, _, _, result => .ok result
  | bits + 1, n, x, result => do
      let result ← if n % 2 = 0 then .ok result else mul p result x
      if n / 2 = 0 then .ok result
      else do
        let square ← mul p x x
        powFrom p bits (n / 2) square result

/-- The power of an `x` of value `±1`: a one with as many places as the product would have, and
with all places if `y` is not an integer. -/
def powOne (p : Nat) (negative : Bool) (x y : Decimal) : Decimal :=
  let places : Nat :=
    if ¬ y.IsInteger then p - 1
    else if y.negative ∨ x.exponent = 0 then 0
    else if (Digits.count p : Int) ≤ y.order then p - 1
    else min ((y.toInt?.getD 0).toNat * (-x.exponent).toNat) (p - 1)
  paddedOne negative places

/-- The result of a power that leaves the exponent range, if `x ^ y` surely does. -/
def powOutOfRange? (p : Nat) (negative : Bool) (x y : Decimal) : Option (Except Signal Decimal) :=
  if x.logOrder + y.order ≤ 7 then none
  else if (0 ≤ x.order) = (y.negative = false) then some (.error .overflow)
  else some (.ok ⟨negative, 0, minExponent p⟩)

/-- `x ^ n` for a nonzero integer `n`; a negative power multiplies the reciprocal. Exponents of
more than 64 bits are taken from the last bit up. -/
def powInt (p : Nat) (negative : Bool) (x : Decimal) (n : Int) : Except Signal Decimal := do
  let guarded := p + Digits.count n.natAbs + 2
  let (guarded, base) ←
    if n < 0 then do
      let reciprocal ← div (guarded + 1) one x.abs
      pure (guarded + 1, reciprocal)
    else pure (guarded, x.abs)
  let bits := n.natAbs.log2
  let y ←
    if bits < 64 then powNat guarded base bits n.natAbs
    else powFrom guarded (bits + 1) n.natAbs base one
  round p { y with negative }

/-- `x ^ y` for `0 < x` and a `y` that is not an integer. -/
def powReal (p : Nat) (x y : Decimal) : Except Signal Decimal :=
  let guarded := max p (Digits.count x.coefficient) + 23
  let l := log guarded x
  let product : Decimal :=
    ⟨l.negative != y.negative, l.coefficient * y.coefficient, l.exponent + y.exponent⟩
  round p (exp guarded (nearest guarded product))

/-- `x ^ y` for an `x` other than zero. A negative number has integer powers only. -/
def pow (p : Nat) (x y : Decimal) : Except Signal Decimal :=
  let negative := x.negative && decide y.IsOdd
  if x.negative ∧ ¬ y.IsInteger then .error .invalidOperation
  else if y.IsZero then .ok one
  else if x.abs.SameValue one then .ok (powOne p negative x y)
  else match powOutOfRange? p negative x y with
    | some result => result
    | none =>
        match y.toInt? with
        | some n => powInt p negative x n
        | none => powReal p x y

end CalcSheet.Decimal
