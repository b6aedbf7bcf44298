import CalcSheet.Proofs.Decimal.Signals
import CalcSheet.Scalar.Arithmetic

/-!
# Arithmetic of finite scalars

Finite scalars stay finite, but for one operation: a power of zero to a negative exponent.
-/
namespace CalcSheet.Scalar
open Decimal

variable {p : Nat} {x y z : Scalar}

def IsFinite : Scalar → Prop
  | .finite _ => True
  | _ => False

instance : DecidablePred IsFinite
  | .finite _ => isTrue trivial
  | .infinite _ | .nan .. => isFalse not_false

@[simp] theorem isFinite_finite (x : Decimal) : (Scalar.finite x).IsFinite := trivial

@[simp] theorem isFinite_ofInt (n : Int) : (ofInt n).IsFinite := trivial

@[simp] theorem isFinite_one : one.IsFinite := trivial

theorem IsFinite.eq_finite (h : x.IsFinite) : ∃ d, x = .finite d := by
  cases x with
  | finite d => exact ⟨d, rfl⟩
  | infinite _ => exact h.elim
  | nan _ _ _ => exact h.elim

/-- The result of decimal arithmetic is a finite scalar. -/
theorem isFinite_of_map {r : Except Signal Decimal} (h : Scalar.finite <$> r = .ok z) :
    z.IsFinite := by
  obtain ⟨d, -, rfl⟩ := map_eq_ok h
  trivial

theorem IsFinite.neg (hx : x.IsFinite) (h : x.neg p = .ok z) : z.IsFinite := by
  obtain ⟨d, rfl⟩ := hx.eq_finite
  exact isFinite_of_map h

theorem IsFinite.add (hx : x.IsFinite) (hy : y.IsFinite) (h : x.add p y = .ok z) :
    z.IsFinite := by
  obtain ⟨d, rfl⟩ := hx.eq_finite
  obtain ⟨e, rfl⟩ := hy.eq_finite
  exact isFinite_of_map h

theorem IsFinite.mul (hx : x.IsFinite) (hy : y.IsFinite) (h : x.mul p y = .ok z) :
    z.IsFinite := by
  obtain ⟨d, rfl⟩ := hx.eq_finite
  obtain ⟨e, rfl⟩ := hy.eq_finite
  exact isFinite_of_map h

theorem IsFinite.div (hx : x.IsFinite) (hy : y.IsFinite) (h : x.div p y = .ok z) :
    z.IsFinite := by
  obtain ⟨d, rfl⟩ := hx.eq_finite
  obtain ⟨e, rfl⟩ := hy.eq_finite
  exact isFinite_of_map h

theorem overflowsOnly_mul (hx : x.IsFinite) (hy : y.IsFinite) : OverflowsOnly (x.mul p y) := by
  obtain ⟨d, rfl⟩ := hx.eq_finite
  obtain ⟨e, rfl⟩ := hy.eq_finite
  exact (Decimal.overflowsOnly_mul p d e).map _

/-- A finite scalar other than zero. -/
def IsInvertible : Scalar → Prop
  | .finite x => ¬ x.IsZero
  | _ => False

instance : DecidablePred IsInvertible
  | .finite x => inferInstanceAs (Decidable (¬ x.IsZero))
  | .infinite _ | .nan .. => isFalse not_false

theorem IsInvertible.isFinite (h : x.IsInvertible) : x.IsFinite := by
  cases x with
  | finite d => trivial
  | infinite _ => exact h.elim
  | nan _ _ _ => exact h.elim

theorem overflowsOnly_div (hx : x.IsFinite) (hy : y.IsInvertible) : OverflowsOnly (x.div p y) := by
  obtain ⟨d, rfl⟩ := hx.eq_finite
  obtain ⟨e, rfl⟩ := hy.isFinite.eq_finite
  exact (Decimal.overflowsOnly_div p d hy).map _

theorem IsInvertible.pow (hx : x.IsInvertible) (hy : y.IsFinite) (h : x.pow p y = .ok z) :
    z.IsFinite := by
  obtain ⟨d, rfl⟩ := hx.isFinite.eq_finite
  obtain ⟨e, rfl⟩ := hy.eq_finite
  rw [Scalar.pow, powFinite, if_neg (show ¬ d.IsZero from hx)] at h
  exact isFinite_of_map h

theorem IsInvertible.overflowsOnly_pow (hx : x.IsInvertible) (n : Int) :
    OverflowsOnly (x.pow p (ofInt n)) := by
  obtain ⟨d, rfl⟩ := hx.isFinite.eq_finite
  rw [ofInt, Scalar.pow, powFinite, if_neg (show ¬ d.IsZero from hx)]
  exact (overflowsOnly_pow_ofInt p hx n).map _

/-- A finite scalar is either a zero or has powers of its own. -/
theorem IsFinite.pow (hx : x.IsFinite) (hy : y.IsFinite)
    (noPole : x.isZero = .ok true → y.isNegative = .ok false) (h : x.pow p y = .ok z) :
    z.IsFinite := by
  obtain ⟨d, rfl⟩ := hx.eq_finite
  obtain ⟨e, rfl⟩ := hy.eq_finite
  by_cases zero : d.IsZero
  · have nonneg : ¬ e.IsNegative := by
      have := noPole (by simp [isZero, zero])
      simpa [isNegative] using this
    rw [Scalar.pow, powFinite, if_pos zero] at h
    dsimp only at h
    split at h
    · exact nomatch h
    · next nonzero =>
      split at h
      · next minus => exact absurd ⟨minus, nonzero⟩ nonneg
      · obtain rfl := Except.ok.inj h
        trivial
  · exact IsInvertible.pow (x := .finite d) zero hy h

end CalcSheet.Scalar
