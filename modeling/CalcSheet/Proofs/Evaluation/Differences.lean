import CalcSheet.Proofs.Decimal.Nearest
import CalcSheet.Proofs.Evaluation.Integers

/-!
# Exact differences

A sum that can be written with the digits of the precision is exact, however many digits its
operands have. A difference rounds its right operand before it adds, so it is exact where this
operand too can be written with these digits.
-/
namespace CalcSheet
namespace Decimal

variable {p : Nat} {x y big small : Decimal} {v w : ℚ} {e f : ℤ}

/-! ### Multiples of powers of ten -/

/-- Integers with a power of ten as the unit. -/
def IsMultiple (e : ℤ) (v : ℚ) : Prop := ∃ c : ℤ, v = c * 10 ^ e

theorem IsMultiple.mono (h : IsMultiple f v) (le : e ≤ f) : IsMultiple e v := by
  obtain ⟨c, rfl⟩ := h
  obtain ⟨k, rfl⟩ : ∃ k : Nat, f = k + e := ⟨(f - e).toNat, by omega⟩
  refine ⟨c * 10 ^ k, ?_⟩
  rw [zpow_add₀ (by norm_num), zpow_natCast]
  push_cast
  ring

theorem IsMultiple.sub (h : IsMultiple e v) (h' : IsMultiple e w) : IsMultiple e (v - w) := by
  obtain ⟨c, rfl⟩ := h
  obtain ⟨d, rfl⟩ := h'
  exact ⟨c - d, by push_cast; ring⟩

/-- No multiple lies between zero and the unit. -/
theorem IsMultiple.eq_zero (h : IsMultiple e v) (small : |v| < 10 ^ e) : v = 0 := by
  obtain ⟨c, rfl⟩ := h
  have unit : (0 : ℚ) < 10 ^ e := by positivity
  rw [abs_mul, abs_of_pos unit, mul_lt_iff_lt_one_left unit] at small
  have none : c = 0 := Int.abs_lt_one_iff.1 (by exact_mod_cast small)
  rw [none, Int.cast_zero, zero_mul]

theorem isMultiple_toRat (le : e ≤ x.exponent) : IsMultiple e x.toRat := ⟨_, toRat_eq_scaledTo le⟩

/-- The larger a representable number is, the larger is its unit. -/
theorem IsRepresentable.isMultiple (h : IsRepresentable p v) (large : (10 : ℚ) ^ (p + e) ≤ |v|) :
    IsMultiple e v := by
  obtain ⟨⟨c, f, rfl, digits, -⟩, -⟩ := h
  have order := (zpow_lt_zpow_iff_right₀ (by norm_num)).1 (large.trans_lt (abs_lt_of_digits digits))
  exact IsMultiple.mono ⟨c, rfl⟩ (by omega)

/-! ### Sums -/

/-- Nothing that counts is too small beside another number in a sum that needs no rounding. -/
theorem toRat_besides (nonzero : ¬ big.IsZero)
    (fits : IsRepresentable p (big.toRat + small.toRat)) :
    (besides p big small).toRat = small.toRat := by
  unfold besides
  dsimp only
  split
  · next tiny =>
    suffices zero : small.IsZero by
      rw [show small.coefficient = 0 from zero, toRat_eq_zero.2 zero]
      exact toRat_eq_zero.2 rfl
    generalize last : min big.exponent (big.order - p) - 2 = e at tiny
    have below : |small.toRat| < 10 ^ e :=
      (lt_zpow_order small).trans_le (zpow_le_zpow_right₀ (by norm_num) (by omega))
    have above : (10 : ℚ) ^ (p + e) ≤ |big.toRat + small.toRat| := by
      have tenth : (10 : ℚ) ^ big.order = 10 * 10 ^ (big.order - 1) := by
        rw [← zpow_one_add₀ (by norm_num)]
        congr 1
        omega
      have leading := zpow_order_le nonzero
      have apart := abs_sub_abs_le_abs_sub big.toRat (-small.toRat)
      rw [abs_neg, sub_neg_eq_add] at apart
      have lower : (10 : ℚ) ^ e ≤ 10 ^ (big.order - 1) :=
        zpow_le_zpow_right₀ (by norm_num) (by omega)
      have upper : (10 : ℚ) ^ (p + e) ≤ 10 ^ (big.order - 1) :=
        zpow_le_zpow_right₀ (by norm_num) (by omega)
      have positive : (0 : ℚ) < 10 ^ (big.order - 1) := by positivity
      linarith
    have multiple := (fits.isMultiple above).sub (isMultiple_toRat (show e ≤ big.exponent by omega))
    rw [add_sub_cancel_left] at multiple
    exact toRat_eq_zero.1 (multiple.eq_zero below)
  · rfl

theorem exponent_besides_le (le : small.exponent ≤ big.exponent) :
    (besides p big small).exponent ≤ big.exponent := by
  unfold besides
  dsimp only
  split
  · dsimp only
    omega
  · exact le

/-- A sum that can be written with the digits of the precision is exact. -/
theorem addSmaller_of_isRepresentable (pos : 0 < p) (le : small.exponent ≤ big.exponent)
    (fits : IsRepresentable p (big.toRat + small.toRat)) :
    ∃ z, addSmaller p big small = .ok z ∧ z.toRat = big.toRat + small.toRat := by
  have operand : ∃ other : Decimal, (if big.IsZero then small else besides p big small) = other
      ∧ other.toRat = small.toRat ∧ other.exponent ≤ big.exponent := by
    by_cases zero : big.IsZero
    · exact ⟨small, if_pos zero, rfl, le⟩
    · exact ⟨_, if_neg zero, toRat_besides zero fits, exponent_besides_le le⟩
  obtain ⟨other, chosen, same, fine⟩ := operand
  unfold addSmaller
  rw [chosen]
  dsimp only
  generalize total : big.scaledTo other.exponent + other.scaledTo other.exponent = sum
  have value : toRat ⟨if sum = 0 then big.negative && other.negative else decide (sum < 0),
      sum.natAbs, other.exponent⟩ = big.toRat + small.toRat := by
    have signed : Denotes ⟨if sum = 0 then big.negative && other.negative else decide (sum < 0),
        sum.natAbs, 0⟩ sum := denotes_natAbs fun nonzero => if_neg nonzero
    rw [← same, toRat_eq_scaledTo fine, toRat_eq_scaledTo (le_refl other.exponent), ← add_mul,
      ← Int.cast_add, total]
    exact congrArg (fun c : ℤ => (c : ℚ) * 10 ^ other.exponent) signed.value
  obtain ⟨z, done, exact⟩ := round_of_isRepresentable pos (value ▸ fits)
  exact ⟨z, done, exact.trans value⟩

theorem add_of_isRepresentable (pos : 0 < p) (fits : IsRepresentable p (x.toRat + y.toRat)) :
    ∃ z, add p x y = .ok z ∧ z.toRat = x.toRat + y.toRat := by
  unfold add
  split
  · next le => exact addSmaller_of_isRepresentable pos le fits
  · next above =>
    rw [add_comm] at fits ⊢
    exact addSmaller_of_isRepresentable pos (Int.le_of_lt (Int.not_le.1 above)) fits

theorem neg_of_isRepresentable (pos : 0 < p) (fits : IsRepresentable p x.toRat) :
    ∃ z, neg p x = .ok z ∧ z.toRat = -x.toRat := by
  have opposite :
      toRat { x with negative := !x.negative && !decide x.IsZero } = -x.toRat := by
    by_cases zero : x.coefficient = 0
    · simp [toRat, signedCoefficient, zero]
    · cases negative : x.negative <;> simp [toRat, signedCoefficient, IsZero, negative, zero]
  obtain ⟨z, done, same⟩ := round_of_isRepresentable pos (opposite ▸ fits.neg)
  exact ⟨z, done, same.trans opposite⟩

end Decimal

/-! ### Numbers without units -/

namespace Value
open Decimal Quantity

variable {a b : Decimal}

/-- The sum of two numbers is exact where it can be written with the digits that are calculated
with, however many the numbers have. -/
theorem binary_add_of_isRepresentable
    (fits : IsRepresentable workingPrecision (a.toRat + b.toRat)) :
    ∃ z, binary .add (.number (.ofDecimal a)) (.number (.ofDecimal b))
        = .ok (.number (.ofDecimal z)) ∧ z.toRat = a.toRat + b.toRat := by
  obtain ⟨z, done, same⟩ := add_of_isRepresentable (by decide) fits
  refine ⟨z, ?_, same⟩
  simp only [binary, Quantity.binary, add_ofDecimal done]
  rfl

/-- The difference of two numbers is exact where both it and the number that is subtracted can be
written with the digits that are calculated with. So such a number less itself is zero. -/
theorem binary_sub_of_isRepresentable (right : IsRepresentable workingPrecision b.toRat) :
    (IsRepresentable workingPrecision (a.toRat - b.toRat) →
      ∃ z, binary .sub (.number (.ofDecimal a)) (.number (.ofDecimal b))
          = .ok (.number (.ofDecimal z)) ∧ z.toRat = a.toRat - b.toRat)
      ∧ ∃ z : Decimal, binary .sub (.number (.ofDecimal b)) (.number (.ofDecimal b))
          = .ok (.number (.ofDecimal z)) ∧ z.IsZero := by
  have difference (c : Decimal) (fits : IsRepresentable workingPrecision (c.toRat - b.toRat)) :
      ∃ z, binary .sub (.number (.ofDecimal c)) (.number (.ofDecimal b))
          = .ok (.number (.ofDecimal z)) ∧ z.toRat = c.toRat - b.toRat := by
    obtain ⟨opposite, negated, negative⟩ := neg_of_isRepresentable (by decide) right
    rw [sub_eq_add_neg, ← negative] at fits ⊢
    obtain ⟨z, added, same⟩ := binary_add_of_isRepresentable fits
    refine ⟨z, ?_, same⟩
    simp only [binary, Quantity.binary, Quantity.sub, neg_ofDecimal negated]
    exact added
  refine ⟨difference a, ?_⟩
  obtain ⟨z, done, same⟩ := difference b (by rw [sub_self]; exact isRepresentable_zero _)
  exact ⟨z, done, toRat_eq_zero.1 (same.trans (sub_self _))⟩

/-- A number of fifty-one digits less a power of ten. -/
theorem binary_sub_of_isRepresentable_power :
    let a : Decimal := ⟨false, 10 ^ 50 + 1, 0⟩
    let b : Decimal := ⟨false, 10 ^ 50, 0⟩
    IsRepresentable workingPrecision b.toRat
      ∧ IsRepresentable workingPrecision (a.toRat - b.toRat)
      ∧ ∃ z, binary .sub (.number (.ofDecimal a)) (.number (.ofDecimal b))
          = .ok (.number (.ofDecimal z)) ∧ z.toRat = a.toRat - b.toRat := by
  intro a b
  have representable (k : Nat) (small : (k : ℤ) ≤ maxOrder) :
      IsRepresentable workingPrecision (10 ^ (k : ℤ)) := by
    refine ⟨⟨1, k, by simp, by norm_num [workingPrecision], ?_⟩, ?_⟩
    · exact (show minExponent workingPrecision ≤ 0 by decide).trans (Int.natCast_nonneg k)
    · rw [abs_of_pos (by positivity)]
      exact zpow_lt_zpow_right₀ (by norm_num) (by omega)
  have right : IsRepresentable workingPrecision b.toRat := by
    have same : b.toRat = 10 ^ ((50 : Nat) : ℤ) := by
      norm_num [b, toRat, signedCoefficient]
    exact same ▸ representable 50 (by decide)
  have fits : IsRepresentable workingPrecision (a.toRat - b.toRat) := by
    have same : a.toRat - b.toRat = 10 ^ ((0 : Nat) : ℤ) := by
      norm_num [a, b, toRat, signedCoefficient]
    exact same ▸ representable 0 (by decide)
  exact ⟨right, fits, (binary_sub_of_isRepresentable right).1 fits⟩

/-- A number of fifty-one digits less itself is not zero. -/
theorem not_forall_differences :
    ¬ ∀ a b : Decimal, IsRepresentable workingPrecision (a.toRat - b.toRat) →
      ∃ z, binary .sub (.number (.ofDecimal a)) (.number (.ofDecimal b))
          = .ok (.number (.ofDecimal z)) ∧ z.toRat = a.toRat - b.toRat := by
  intro all
  let a : Decimal := ⟨false, 10 ^ 50 + 1, 0⟩
  obtain ⟨z, done, same⟩ := all a a (by rw [sub_self]; exact isRepresentable_zero _)
  have one : binary .sub (.number (.ofDecimal a)) (.number (.ofDecimal a))
      = .ok (.number (.ofDecimal .one)) := by decide +kernel
  have result := Except.ok.inj (one.symm.trans done)
  injection result with result
  injection result with result
  injection result with result
  rw [← result, toRat_one, sub_self] at same
  exact one_ne_zero same

end Value
end CalcSheet
