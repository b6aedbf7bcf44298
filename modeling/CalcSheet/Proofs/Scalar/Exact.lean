import CalcSheet.Proofs.Decimal.Rational
import CalcSheet.Proofs.Decimal.Signals
import CalcSheet.Quantity
import Mathlib.Data.Option.NAry

/-!
# Arithmetic without rounding

The operations on scalars, with every result refused that is not the exact one. A calculation that
comes out the same with them has rounded nothing.
-/
namespace CalcSheet
open Decimal (Signal)

namespace Scalar
variable {x y : Scalar} {a b : ℚ} {n : Int}

/-- The rational number that a finite scalar is. -/
def toRat? : Scalar → Option ℚ
  | .finite x => some x.toRat
  | _ => none

/-- The integer that a finite scalar is, if it is one. -/
def toInt? : Scalar → Option Int
  | .finite x => x.toInt?
  | _ => none

@[simp] theorem toRat?_one : one.toRat? = some 1 := congrArg some Decimal.toRat_one

theorem exists_finite_of_toRat? (h : x.toRat? = some a) :
    ∃ d : Decimal, x = .finite d ∧ d.toRat = a := by
  cases x with
  | finite d => exact ⟨d, rfl, Option.some.inj h⟩
  | infinite _ => exact nomatch h
  | nan _ _ _ => exact nomatch h

theorem toInt?_ofInt (n : Int) : (ofInt n).toInt? = some n := Decimal.toInt?_ofInt n

theorem toInt?_eq_some_iff : x.toInt? = some n ↔ x.toRat? = some (n : ℚ) := by
  cases x with
  | finite x => exact Decimal.toInt?_eq_some_iff.trans Option.some_inj.symm
  | infinite _ => exact iff_of_false nofun nofun
  | nan _ _ _ => exact iff_of_false nofun nofun

theorem toRat?_eq_of_equal (hx : x.toRat? = some a) (hy : y.toRat? = some b)
    (same : x.equal y = .ok true) : a = b := by
  obtain ⟨d, rfl, rfl⟩ := exists_finite_of_toRat? hx
  obtain ⟨e, rfl, rfl⟩ := exists_finite_of_toRat? hy
  exact (of_decide_eq_true (Except.ok.inj same)).toRat_eq

end Scalar

/-- An exponent that is counted is an integer. -/
theorem Quantity.toInt?_of_wholeExponent? {x : Scalar} {n : Int}
    (whole : wholeExponent? x = .ok (some n)) : x.toInt? = some n := by
  cases x with
  | finite x => exact Except.ok.inj whole
  | infinite negative => exact nomatch whole
  | nan negative signaling payload =>
    simp only [wholeExponent?] at whole
    split at whole <;> exact nomatch whole

/-- The operations on scalars that calculations are made of. -/
structure Arithmetic where
  neg : Scalar → Except Signal Scalar
  add : Scalar → Scalar → Except Signal Scalar
  mul : Scalar → Scalar → Except Signal Scalar
  div : Scalar → Scalar → Except Signal Scalar
  pow : Scalar → Scalar → Except Signal Scalar

namespace Arithmetic
variable {r : Except Signal Scalar} {x y z : Scalar} {a b : ℚ} {n : Int}

/-- The operations at the working precision. -/
def working : Arithmetic where
  neg := Scalar.neg workingPrecision
  add := Scalar.add workingPrecision
  mul := Scalar.mul workingPrecision
  div := Scalar.div workingPrecision
  pow := Scalar.pow workingPrecision

/-- A result that is refused unless it is the exact one. -/
def orRefuse (expected? : Option ℚ) (r : Except Signal Scalar) : Except Signal Scalar := do
  let z ← r
  if z.toRat? = expected? then pure z else .error .invalidOperation

/-- The operations at the working precision, where they are exact. -/
def exact : Arithmetic where
  neg x := orRefuse (x.toRat?.map (- ·)) (working.neg x)
  add x y := orRefuse (Option.map₂ (· + ·) x.toRat? y.toRat?) (working.add x y)
  mul x y := orRefuse (Option.map₂ (· * ·) x.toRat? y.toRat?) (working.mul x y)
  div x y := orRefuse (Option.map₂ (· / ·) x.toRat? y.toRat?) (working.div x y)
  pow x y := orRefuse (Option.map₂ (· ^ ·) x.toRat? y.toInt?) (working.pow x y)

theorem toRat?_of_orRefuse {expected? : Option ℚ} (done : orRefuse expected? r = .ok z) :
    z.toRat? = expected? := by
  obtain ⟨_, -, done⟩ := bind_eq_ok done
  split at done
  · next same =>
    obtain rfl := Except.ok.inj done
    exact same
  · exact nomatch done

theorem toRat?_neg (done : exact.neg x = .ok z) (hx : x.toRat? = some a) :
    z.toRat? = some (-a) := by
  rw [toRat?_of_orRefuse done, hx, Option.map_some]

theorem toRat?_add (done : exact.add x y = .ok z) (hx : x.toRat? = some a)
    (hy : y.toRat? = some b) : z.toRat? = some (a + b) := by
  rw [toRat?_of_orRefuse done, hx, hy, Option.map₂_some_some]

theorem toRat?_mul (done : exact.mul x y = .ok z) (hx : x.toRat? = some a)
    (hy : y.toRat? = some b) : z.toRat? = some (a * b) := by
  rw [toRat?_of_orRefuse done, hx, hy, Option.map₂_some_some]

theorem toRat?_div (done : exact.div x y = .ok z) (hx : x.toRat? = some a)
    (hy : y.toRat? = some b) : z.toRat? = some (a / b) := by
  rw [toRat?_of_orRefuse done, hx, hy, Option.map₂_some_some]

theorem toRat?_pow (done : exact.pow x y = .ok z) (hx : x.toRat? = some a)
    (hy : y.toInt? = some n) : z.toRat? = some (a ^ n) := by
  rw [toRat?_of_orRefuse done, hx, hy, Option.map₂_some_some]

end Arithmetic

/-- A calculation that comes out the same where every result is refused that is not exact: none of
its operations has rounded. -/
def IsUnrounded {ε α : Type} (calculation : Arithmetic → Except ε α) : Prop :=
  calculation .exact = calculation .working

end CalcSheet
