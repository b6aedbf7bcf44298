import CalcSheet.Decimal.Round

/-!
# Scalars

A scalar is a finite decimal number, an infinity or a NaN, which stands for no number at all. A
signaling NaN makes every operation invalid; a quiet one is passed on, with its sign and payload.
-/
namespace CalcSheet

inductive Scalar where
  | finite (x : Decimal)
  | infinite (negative : Bool)
  | nan (negative signaling : Bool) (payload : Nat)
  deriving DecidableEq, Repr

namespace Scalar

def one : Scalar := .finite .one

def ofInt (n : Int) : Scalar := .finite (.ofInt n)

def IsSignaling : Scalar → Prop
  | .nan _ signaling _ => signaling = true
  | _ => False

instance : DecidablePred IsSignaling
  | .nan _ signaling _ => inferInstanceAs (Decidable (signaling = true))
  | .finite _ | .infinite _ => isFalse not_false

/-- Whether a scalar is a zero of either sign. -/
def isZero : Scalar → Except Decimal.Signal Bool
  | .finite x => .ok (decide x.IsZero)
  | x => if x.IsSignaling then .error .invalidOperation else .ok false

/-- Whether a scalar lies below zero. A NaN cannot be compared. -/
def isNegative : Scalar → Except Decimal.Signal Bool
  | .finite x => .ok (decide x.IsNegative)
  | .infinite negative => .ok negative
  | .nan .. => .error .invalidOperation

/-- Whether two scalars have the same value. A NaN has none. -/
def equal : Scalar → Scalar → Except Decimal.Signal Bool
  | .finite x, .finite y => .ok (decide (x.SameValue y))
  | .infinite negative, .infinite negative' => .ok (negative == negative')
  | x, y => if x.IsSignaling ∨ y.IsSignaling then .error .invalidOperation else .ok false

/-- The exponent of the leading digit; what has no digits has order zero. -/
def order : Scalar → Int
  | .finite x => x.order
  | _ => 0

end Scalar
end CalcSheet
