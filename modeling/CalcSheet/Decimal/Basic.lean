import CalcSheet.Digits

/-!
# Finite decimal numbers

A number is a sign, a coefficient and a power of ten. The same value has many
representations (`2.5`, `2.50`), and zero has a sign; arithmetic says which one it yields.
-/
namespace CalcSheet

/-- The number `±coefficient * 10 ^ exponent`. -/
structure Decimal where
  negative : Bool
  coefficient : Nat
  exponent : Int
  deriving DecidableEq, Repr, Inhabited

namespace Decimal

def ofNat (n : Nat) : Decimal := ⟨false, n, 0⟩

def ofInt (n : Int) : Decimal := ⟨decide (n < 0), n.natAbs, 0⟩

def zero : Decimal := ofNat 0

def one : Decimal := ofNat 1

/-- A one of either sign, written with zeros behind the point. -/
def paddedOne (negative : Bool) (places : Nat) : Decimal :=
  ⟨negative, Digits.tenPow places, -(places : Int)⟩

def IsZero (x : Decimal) : Prop := x.coefficient = 0

instance (x : Decimal) : Decidable x.IsZero := inferInstanceAs (Decidable (x.coefficient = 0))

/-- Strictly below zero; a zero with a minus sign is not. -/
def IsNegative (x : Decimal) : Prop := x.negative = true ∧ ¬ x.IsZero

instance (x : Decimal) : Decidable x.IsNegative := inferInstanceAs (Decidable (_ ∧ _))

def abs (x : Decimal) : Decimal := { x with negative := false }

/-- The coefficient with its sign. -/
def signedCoefficient (x : Decimal) : Int := if x.negative then -x.coefficient else x.coefficient

/-- The exponent of the leading digit: one digit before the point has order zero. -/
def order (x : Decimal) : Int := x.exponent + Digits.count x.coefficient - 1

/-- The signed coefficient of `x` written with an exponent `e` not above its own. -/
def scaledTo (x : Decimal) (e : Int) : Int :=
  if x.IsZero then 0 else x.signedCoefficient * Digits.tenPow (x.exponent - e).toNat

theorem scaledTo_eq (x : Decimal) (e : Int) :
    x.scaledTo e = x.signedCoefficient * Digits.tenPow (x.exponent - e).toNat := by
  by_cases h : x.coefficient = 0 <;> simp [scaledTo, IsZero, signedCoefficient, h]

/-- Equal in value, whatever the representation. -/
def SameValue (x y : Decimal) : Prop :=
  if x.IsZero ∨ y.IsZero then x.IsZero ∧ y.IsZero
  else x.order = y.order ∧
    x.scaledTo (min x.exponent y.exponent) = y.scaledTo (min x.exponent y.exponent)

instance (x y : Decimal) : Decidable (x.SameValue y) := by
  unfold SameValue
  exact inferInstance

/-- The coefficient of an integer without the zeros behind the point, and with none of those that
a positive exponent stands for. -/
def wholeDigits? (x : Decimal) : Option Nat :=
  if x.IsZero ∨ 0 ≤ x.exponent then some x.coefficient
  else if x.order < 0 then none
  else
    let unit := Digits.tenPow (-x.exponent).toNat
    if x.coefficient % unit = 0 then some (x.coefficient / unit) else none

def IsInteger (x : Decimal) : Prop := x.wholeDigits?.isSome = true

instance (x : Decimal) : Decidable x.IsInteger := inferInstanceAs (Decidable (_ = true))

def IsOdd (x : Decimal) : Prop := x.exponent ≤ 0 ∧ x.wholeDigits?.any (· % 2 = 1) = true

instance (x : Decimal) : Decidable x.IsOdd := inferInstanceAs (Decidable (_ ∧ _))

/-- The integer that `x` equals, if it is one. -/
def toInt? (x : Decimal) : Option Int :=
  if x.IsZero then some 0
  else x.wholeDigits?.map fun c =>
    let n : Int := c * Digits.tenPow x.exponent.toNat
    if x.negative then -n else n

end Decimal
end CalcSheet
