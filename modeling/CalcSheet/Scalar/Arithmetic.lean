import CalcSheet.Decimal.Power
import CalcSheet.Scalar.Basic

/-!
# Arithmetic of scalars

On finite numbers this is decimal arithmetic, with one addition: a power of zero to a negative
exponent is infinite. An infinity absorbs what is added to it or multiplied with it; where there is
no limit, such as `∞ - ∞` or `0 * ∞`, the operation is invalid.
-/
namespace CalcSheet.Scalar

/-- The last `p` digits of a payload. -/
def trimPayload (p payload : Nat) : Nat :=
  if Digits.count payload ≤ p then payload else payload % Digits.tenPow p

/-- The outcome of an operation on NaNs and other scalars: the first NaN, if none is signaling. -/
def ofNaN (p : Nat) (x y : Scalar) : Except Decimal.Signal Scalar :=
  if x.IsSignaling ∨ y.IsSignaling then .error .invalidOperation
  else match x, y with
    | .nan negative _ payload, _ | _, .nan negative _ payload =>
        .ok (.nan negative false (trimPayload p payload))
    | x, _ => .ok x

def neg (p : Nat) : Scalar → Except Decimal.Signal Scalar
  | .finite x => .finite <$> x.neg p
  | .infinite negative => .ok (.infinite !negative)
  | x => ofNaN p x x

def add (p : Nat) : Scalar → Scalar → Except Decimal.Signal Scalar
  | .finite x, .finite y => .finite <$> x.add p y
  | .infinite negative, .infinite negative' =>
      if negative = negative' then .ok (.infinite negative) else .error .invalidOperation
  | .infinite negative, .finite _ | .finite _, .infinite negative => .ok (.infinite negative)
  | x, y => ofNaN p x y

/-- An infinity times a finite number. -/
def scaleInfinity (negative : Bool) (x : Decimal) : Except Decimal.Signal Scalar :=
  if x.IsZero then .error .invalidOperation else .ok (.infinite (negative != x.negative))

def mul (p : Nat) : Scalar → Scalar → Except Decimal.Signal Scalar
  | .finite x, .finite y => .finite <$> x.mul p y
  | .infinite negative, .infinite negative' => .ok (.infinite (negative != negative'))
  | .infinite negative, .finite x | .finite x, .infinite negative => scaleInfinity negative x
  | x, y => ofNaN p x y

def div (p : Nat) : Scalar → Scalar → Except Decimal.Signal Scalar
  | .finite x, .finite y => .finite <$> x.div p y
  | .infinite _, .infinite _ => .error .invalidOperation
  | .infinite negative, .finite y => .ok (.infinite (negative != y.negative))
  | .finite x, .infinite negative =>
      .ok (.finite ⟨x.negative != negative, 0, Decimal.minExponent p⟩)
  | x, y => ofNaN p x y

/-- Powers of finite numbers. -/
def powFinite (p : Nat) (x y : Decimal) : Except Decimal.Signal Scalar :=
  if x.IsZero then
    let negative := x.negative && decide y.IsOdd
    if y.IsZero then .error .invalidOperation
    else if y.negative then .ok (.infinite negative)
    else .ok (.finite ⟨negative, 0, 0⟩)
  else .finite <$> x.pow p y

/-- The limit of the powers of `x` as the exponent grows, or falls if `falling`. Powers of one keep
all their places. -/
def powLimit (p : Nat) (x : Scalar) (falling : Bool) : Except Decimal.Signal Scalar :=
  match x with
  | .finite x =>
      if x.IsZero then .ok (if falling then .infinite false else .finite .zero)
      else if x.negative then .error .invalidOperation
      else if x.SameValue .one then .ok (.finite (.paddedOne false (p - 1)))
      else .ok (if (0 ≤ x.order) = (falling = false) then .infinite false else .finite .zero)
  | .infinite true => .error .invalidOperation
  | _ => .ok (if falling then .finite .zero else .infinite false)

/-- Powers of an infinity. -/
def powInfinity (negative : Bool) (y : Decimal) : Except Decimal.Signal Scalar :=
  let negative' := negative && decide y.IsOdd
  if negative ∧ ¬ y.IsInteger then .error .invalidOperation
  else if y.IsZero then .ok one
  else if y.negative then .ok (.finite ⟨negative', 0, 0⟩)
  else .ok (.infinite negative')

def pow (p : Nat) : Scalar → Scalar → Except Decimal.Signal Scalar
  | .finite x, .finite y => powFinite p x y
  | .infinite negative, .finite y => powInfinity negative y
  | .finite x, .infinite falling => powLimit p (.finite x) falling
  | .infinite negative, .infinite falling => powLimit p (.infinite negative) falling
  | x, y => ofNaN p x y

/-- Write a scalar with exponent `e`; an infinity has no such form. -/
def quantize (p : Nat) (tie : Decimal.Tie) (x : Scalar) (e : Int) :
    Except Decimal.Signal Scalar :=
  match x with
  | .finite x => .finite <$> x.quantize p tie e
  | .infinite _ => .error .invalidOperation
  | x => ofNaN p x x

end CalcSheet.Scalar
