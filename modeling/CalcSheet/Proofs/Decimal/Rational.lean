import CalcSheet.Decimal.Text
import CalcSheet.Proofs.Decimal.Range
import Mathlib.Algebra.Field.Rat
import Mathlib.Data.Rat.Cast.CharZero
import Mathlib.Tactic.Ring

/-!
# Decimals as rational numbers

The rational number that a decimal is, apart from how it is written.
-/
namespace CalcSheet.Decimal

variable {x y : Decimal} {n : Int}

def toRat (x : Decimal) : ℚ := x.signedCoefficient * 10 ^ x.exponent

/-- A number is written with any exponent that is not above its own. -/
theorem toRat_eq_scaledTo {e : Int} (le : e ≤ x.exponent) : x.toRat = x.scaledTo e * 10 ^ e := by
  have exponent : x.exponent = ((x.exponent - e).toNat : Int) + e := by omega
  have power : (Digits.tenPow (x.exponent - e).toNat : ℚ) = 10 ^ (x.exponent - e).toNat :=
    Nat.cast_pow 10 _
  rw [toRat, scaledTo_eq, exponent, zpow_add₀ (by norm_num), zpow_natCast, ← exponent]
  push_cast
  rw [power, mul_assoc]

@[simp] theorem toRat_eq_zero : x.toRat = 0 ↔ x.IsZero := by
  have pos : (10 : ℚ) ^ x.exponent ≠ 0 := zpow_ne_zero _ (by norm_num)
  have coefficient : x.signedCoefficient = 0 ↔ x.coefficient = 0 := by
    unfold signedCoefficient
    split <;> omega
  rw [toRat, mul_eq_zero, or_iff_left pos, Int.cast_eq_zero, coefficient, IsZero]

theorem toRat_ofNat (n : Nat) : (ofNat n).toRat = n := by
  simp [toRat, ofNat, signedCoefficient]

@[simp] theorem toRat_one : one.toRat = 1 := by
  rw [one, toRat_ofNat, Nat.cast_one]

theorem toRat_ofDigits (before after : List Nat) : (ofDigits before after).toRat
    = Digits.toNat 10 before + Digits.toNat 10 after / 10 ^ after.length := by
  have pos : (10 : ℚ) ^ after.length ≠ 0 := pow_ne_zero _ (by norm_num)
  simp only [toRat, ofDigits, signedCoefficient, Digits.toNat_append, Nat.pow_eq, zpow_neg,
    zpow_natCast, Bool.false_eq_true, if_false]
  push_cast
  rw [add_mul, mul_inv_cancel_right₀ pos, div_eq_mul_inv]

theorem SameValue.toRat_eq (h : x.SameValue y) : x.toRat = y.toRat := by
  unfold SameValue at h
  split at h
  · rw [toRat_eq_zero.2 h.1, toRat_eq_zero.2 h.2]
  · rw [toRat_eq_scaledTo (min_le_left x.exponent y.exponent),
      toRat_eq_scaledTo (min_le_right x.exponent y.exponent), h.2]

/-! ### Integers -/

/-- The digits of an integer are those that are left where there is no point. -/
theorem coefficient_of_wholeDigits? {c : Nat} (nonzero : ¬ x.IsZero)
    (whole : x.wholeDigits? = some c) :
    (x.coefficient : ℚ) * 10 ^ x.exponent = c * 10 ^ x.exponent.toNat := by
  unfold wholeDigits? at whole
  split at whole
  · next above =>
    obtain rfl := Option.some.inj whole
    rw [← zpow_natCast, Int.toNat_of_nonneg (above.resolve_left nonzero)]
  · next below =>
    split at whole
    · exact nomatch whole
    · dsimp only at whole
      split at whole
      · next divides =>
        obtain rfl := Option.some.inj whole
        obtain ⟨k, exponent⟩ : ∃ k : Nat, x.exponent = -(k : Int) :=
          ⟨(-x.exponent).toNat, by omega⟩
        have places : (-x.exponent).toNat = k := by omega
        have none : x.exponent.toNat = 0 := by omega
        rw [places] at divides ⊢
        have exact : x.coefficient / Digits.tenPow k * 10 ^ k = x.coefficient :=
          Nat.div_mul_cancel (Nat.dvd_of_mod_eq_zero divides)
        have power : (10 : ℚ) ^ k ≠ 0 := pow_ne_zero _ (by norm_num)
        rw [none, exponent, zpow_neg, zpow_natCast, pow_zero, mul_one, mul_inv_eq_iff_eq_mul₀ power]
        exact_mod_cast exact.symm
      · exact nomatch whole

theorem toRat_of_toInt? (h : x.toInt? = some n) : x.toRat = n := by
  unfold toInt? at h
  split at h
  · next zero =>
    obtain rfl := Option.some.inj h
    rw [toRat_eq_zero.2 zero, Int.cast_zero]
  · next nonzero =>
    obtain ⟨_, whole, rfl⟩ := Option.map_eq_some_iff.1 h
    obtain ⟨c, found, same⟩ := Option.bind_eq_some_iff.1 whole
    obtain rfl := Option.some.inj same
    have digits := coefficient_of_wholeDigits? nonzero found
    have power : (Digits.tenPow x.exponent.toNat : ℚ) = 10 ^ x.exponent.toNat := Nat.cast_pow 10 _
    cases negative : x.negative <;> simp [toRat, signedCoefficient, negative, digits, power]

/-- Behind the point of an integer there are only zeros. -/
theorem coefficient_of_toRat {k : Nat} (places : x.exponent = -(k : Int)) (h : x.toRat = n) :
    x.coefficient = n.natAbs * 10 ^ k := by
  have power : (10 : ℚ) ^ k ≠ 0 := pow_ne_zero _ (by norm_num)
  have signed : x.signedCoefficient = n * 10 ^ k := by
    rw [toRat, places, zpow_neg, zpow_natCast, mul_inv_eq_iff_eq_mul₀ power] at h
    exact_mod_cast h
  have size : x.signedCoefficient.natAbs = x.coefficient := by
    unfold signedCoefficient
    split <;> omega
  rw [← size, signed, Int.natAbs_mul, Int.natAbs_pow]
  rfl

theorem isInteger_of_toRat (nonzero : ¬ x.IsZero) (h : x.toRat = n) : x.IsInteger := by
  unfold IsInteger wholeDigits?
  split
  · rfl
  · next below =>
    obtain ⟨k, places⟩ : ∃ k : Nat, x.exponent = -(k : Int) := ⟨(-x.exponent).toNat, by omega⟩
    have coefficient := coefficient_of_toRat places h
    have large : 10 ^ k ≤ x.coefficient := by
      have pos : 0 < n.natAbs := by
        rw [Int.natAbs_pos]
        rintro rfl
        exact nonzero (coefficient.trans (Nat.zero_mul _))
      rw [coefficient]
      exact Nat.le_mul_of_pos_left _ pos
    have digits : k < Digits.count x.coefficient := Digits.lt_count large
    have toNat : (-x.exponent).toNat = k := by omega
    have divides : x.coefficient % Digits.tenPow k = 0 := by
      rw [coefficient]
      exact Nat.mul_mod_left _ _
    rw [if_neg (by unfold order; omega), toNat]
    simp only [divides, if_true, Option.isSome_some]

/-- A number is an integer just if it is found to be this integer. -/
theorem toInt?_eq_some_iff : x.toInt? = some n ↔ x.toRat = n := by
  refine ⟨toRat_of_toInt?, fun h => ?_⟩
  by_cases zero : x.IsZero
  · rw [toRat_eq_zero.2 zero] at h
    rw [toInt?, if_pos zero, ← Int.cast_eq_zero.1 h.symm]
  · obtain ⟨c, whole⟩ := Option.isSome_iff_exists.1 (isInteger_of_toRat zero h)
    obtain ⟨m, found⟩ : ∃ m, x.toInt? = some m := ⟨_, by rw [toInt?, if_neg zero, whole]; rfl⟩
    have same : (m : ℚ) = n := (toRat_of_toInt? found).symm.trans h
    rw [found, Int.cast_injective same]

end CalcSheet.Decimal
