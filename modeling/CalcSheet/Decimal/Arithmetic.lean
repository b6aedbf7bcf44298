import CalcSheet.Decimal.Round

/-!
# Sums, products and quotients

Operands have any number of digits; only the result is rounded, as the exact one would be. A sum
keeps the smaller exponent, a product adds exponents, and an exact quotient is shortened towards
the difference of the exponents.
-/
namespace CalcSheet.Decimal

/-- `-x`, rounded; the negation of a zero is a plain zero. -/
def neg (p : Nat) (x : Decimal) : Except Signal Decimal :=
  round p { x with negative := !x.negative && !decide x.IsZero }

/-- What stands for `small` in a sum with `big`. A number below the last digit that counts only
decides on which side of `big` the sum lies, so one so small is as good as any other. -/
def besides (p : Nat) (big small : Decimal) : Decimal :=
  let e := min big.exponent (big.order - p) - 2
  if small.order < e then ⟨small.negative, min 1 small.coefficient, e⟩ else small

/-- The sum of a number and one with an exponent not above its own. -/
def addSmaller (p : Nat) (big small : Decimal) : Except Signal Decimal :=
  let small := if big.IsZero then small else besides p big small
  let sum := big.scaledTo small.exponent + small.scaledTo small.exponent
  let negative := if sum = 0 then big.negative && small.negative else decide (sum < 0)
  round p ⟨negative, sum.natAbs, small.exponent⟩

def add (p : Nat) (x y : Decimal) : Except Signal Decimal :=
  if y.exponent ≤ x.exponent then addSmaller p x y else addSmaller p y x

def mul (p : Nat) (x y : Decimal) : Except Signal Decimal :=
  round p ⟨x.negative != y.negative, x.coefficient * y.coefficient, x.exponent + y.exponent⟩

/-- Remove up to `k` trailing zeros of `c`, counting the removed ones. -/
def stripZeros : Nat → Nat → Nat × Nat
  | 0, c => (c, 0)
  | k + 1, c =>
      if c % 10 = 0 then
        let (short, n) := stripZeros k (c / 10)
        (short, n + 1)
      else (c, 0)

/-- `x / y`. The quotient is computed to one digit more than needed; a remainder shows in its last
digit, so that no tie is seen where there is none. -/
def div (p : Nat) (x y : Decimal) : Except Signal Decimal :=
  if y.IsZero then .error (if x.IsZero then .invalidOperation else .divisionByZero)
  else
    let negative := x.negative != y.negative
    let ideal := x.exponent - y.exponent
    if x.IsZero then round p ⟨negative, 0, ideal⟩
    else
      let shift : Int := Digits.count y.coefficient - Digits.count x.coefficient + p + 1
      let n := x.coefficient * Digits.tenPow shift.toNat
      let d := y.coefficient * Digits.tenPow (-shift).toNat
      let q := n / d
      if n % d = 0 then
        let (short, dropped) := stripZeros shift.toNat q
        round p ⟨negative, short, ideal - shift + dropped⟩
      else
        round p ⟨negative, if q % 5 = 0 then q + 1 else q, ideal - shift⟩

end CalcSheet.Decimal
