import CalcSheet.Decimal.Arithmetic
import Mathlib.Algebra.Ring.Int.Defs
import Mathlib.Algebra.Ring.Nat

/-!
# Exact arithmetic of integers

An integer whose digits fit the precision is not changed by rounding. So sums, differences and
products of integers written without a point are exact, as long as they fit.
-/
namespace CalcSheet
namespace Digits

theorem order_lt {k n p : Nat} (pos : 0 < p) (fits : n < 10 ^ p) : order k n < p := by
  induction k generalizing n p with
  | zero => exact pos
  | succ k ih =>
    rw [order]
    split
    · exact ih pos fits
    · next long =>
      have block : 10 ^ width k ≤ n := Nat.le_of_not_lt long
      have shorter : width k < p :=
        (Nat.pow_lt_pow_iff_right (a := 10) (by decide)).1 (Nat.lt_of_le_of_lt block fits)
      have rest : n / 10 ^ width k < 10 ^ (p - width k) := by
        apply Nat.div_lt_of_lt_mul
        rwa [← Nat.pow_add, Nat.add_sub_cancel' (Nat.le_of_lt shorter)]
      have := ih (n := n / tenPow (width k)) (Nat.sub_pos_of_lt shorter) rest
      omega

/-- A number below the `p`-th power of ten has at most `p` digits. -/
theorem count_le {n p : Nat} (pos : 0 < p) (fits : n < 10 ^ p) : count n ≤ p := order_lt pos fits

end Digits

namespace Decimal

/-- The integer `n`, written without a point and without an exponent. A zero may have either
sign. -/
structure Denotes (x : Decimal) (n : Int) : Prop where
  exponent : x.exponent = 0
  value : x.signedCoefficient = n

/-- A precision with which all integers that fit it are in the exponent range. -/
def IsModerate (p : Nat) : Prop := 0 < p ∧ (p : Int) ≤ maxOrder

variable {p : Nat} {x y : Decimal} {m n : Int}

theorem denotes_ofNat (n : Nat) : (ofNat n).Denotes n := ⟨rfl, rfl⟩

theorem denotes_natAbs {negative : Bool} (sign : n ≠ 0 → negative = decide (n < 0)) :
    Denotes ⟨negative, n.natAbs, 0⟩ n := by
  refine ⟨rfl, ?_⟩
  by_cases zero : n = 0
  · simp [signedCoefficient, zero]
  · simp only [signedCoefficient, sign zero, decide_eq_true_eq]
    split <;> omega

theorem denotes_ofInt (n : Int) : (ofInt n).Denotes n := denotes_natAbs fun _ => rfl

namespace Denotes

theorem coefficient (h : x.Denotes n) : x.coefficient = n.natAbs := by
  have value := h.value
  unfold signedCoefficient at value
  split at value <;> omega

/-- Numbers that denote the same integer are equal in value. -/
theorem sameValue (hx : x.Denotes n) (hy : y.Denotes n) : x.SameValue y := by
  unfold SameValue IsZero
  have same : x.coefficient = y.coefficient := hx.coefficient.trans hy.coefficient.symm
  split
  · next zero => omega
  · refine ⟨by simp only [order, hx.exponent, hy.exponent, same], ?_⟩
    simp only [scaledTo_eq, hx.exponent, hy.exponent, hx.value, hy.value]

theorem scaledTo (h : x.Denotes n) : x.scaledTo 0 = n := by
  rw [scaledTo_eq, h.exponent, h.value]
  exact Int.mul_one n

theorem count_le (h : x.Denotes n) (pos : 0 < p) (fits : n.natAbs < 10 ^ p) :
    Digits.count x.coefficient ≤ p := by
  rw [h.coefficient]
  exact Digits.count_le pos fits

/-- Rounding does not change an integer that fits the precision. -/
theorem round (moderate : IsModerate p) (h : x.Denotes n) (fits : n.natAbs < 10 ^ p) :
    x.round p = .ok x := by
  obtain ⟨pos, small⟩ := moderate
  obtain ⟨negative, c, e⟩ := x
  obtain rfl : e = 0 := h.exponent
  have digits : Digits.count c ≤ p := h.count_le pos fits
  have least : minExponent p ≤ 0 := by
    unfold minExponent minOrder
    omega
  rw [Decimal.round]
  split
  · have zero : min maxOrder (max (minExponent p) 0) = 0 := by
      unfold maxOrder
      omega
    rw [zero]
  · have kept : max 0 (max (minExponent p) (0 + Digits.count c - p)) = 0 := by omega
    have coefficient : dropDigits .toEven c 0 = c := by
      simp [dropDigits, divNearest, Digits.tenPow, Nat.mod_one]
    have whole : roundAbove p (minExponent p) ⟨negative, c, 0⟩ = ⟨negative, c, 0⟩ := by
      simp only [roundAbove, kept, Int.sub_self, Int.toNat_zero, coefficient]
      rw [if_neg (Nat.not_lt.2 digits)]
    have order : (⟨negative, c, 0⟩ : Decimal).order ≤ maxOrder := by
      simp only [Decimal.order]
      omega
    rw [whole]
    exact if_neg fun above => absurd above.2 (Int.not_lt.2 order)

theorem neg (moderate : IsModerate p) (h : x.Denotes n) (fits : n.natAbs < 10 ^ p) :
    ∃ z, x.neg p = .ok z ∧ z.Denotes (-n) := by
  have opposite : Denotes { x with negative := !x.negative && !decide x.IsZero } (-n) := by
    refine ⟨h.exponent, ?_⟩
    rw [← h.value]
    by_cases zero : x.coefficient = 0
    · simp [signedCoefficient, zero]
    · cases negative : x.negative <;> simp [signedCoefficient, IsZero, negative, zero]
  exact ⟨_, opposite.round moderate (by rwa [Int.natAbs_neg]), opposite⟩

/-- Beside an integer no integer is too small to count. -/
theorem besides (hx : x.Denotes m) (hy : y.Denotes n) : x.besides p y = y := by
  unfold Decimal.besides
  refine if_neg ?_
  simp only [order, hx.exponent, hy.exponent]
  omega

theorem addSmaller (moderate : IsModerate p) (hx : x.Denotes m) (hy : y.Denotes n)
    (fits : (m + n).natAbs < 10 ^ p) : ∃ z, x.addSmaller p y = .ok z ∧ z.Denotes (m + n) := by
  have operand : (if x.IsZero then y else x.besides p y) = y := by
    rw [hx.besides hy, ite_self]
  unfold Decimal.addSmaller
  rw [operand]
  simp only [hy.exponent, hx.scaledTo, hy.scaledTo]
  have denotes : Denotes ⟨if m + n = 0 then x.negative && y.negative else decide (m + n < 0),
      (m + n).natAbs, 0⟩ (m + n) := denotes_natAbs fun nonzero => if_neg nonzero
  exact ⟨_, denotes.round moderate fits, denotes⟩

theorem add (moderate : IsModerate p) (hx : x.Denotes m) (hy : y.Denotes n)
    (fits : (m + n).natAbs < 10 ^ p) : ∃ z, x.add p y = .ok z ∧ z.Denotes (m + n) := by
  have exponents : y.exponent ≤ x.exponent := Int.le_of_eq (hy.exponent.trans hx.exponent.symm)
  rw [Decimal.add, if_pos exponents]
  exact hx.addSmaller moderate hy fits

theorem mul (moderate : IsModerate p) (hx : x.Denotes m) (hy : y.Denotes n)
    (fits : (m * n).natAbs < 10 ^ p) : ∃ z, x.mul p y = .ok z ∧ z.Denotes (m * n) := by
  have product : (⟨x.negative != y.negative, x.coefficient * y.coefficient,
      x.exponent + y.exponent⟩ : Decimal).Denotes (m * n) := by
    refine ⟨by rw [hx.exponent, hy.exponent]; rfl, ?_⟩
    rw [← hx.value, ← hy.value]
    cases hs : x.negative <;> cases ht : y.negative <;> simp [signedCoefficient, hs, ht]
  exact ⟨_, product.round moderate fits, product⟩

end Denotes
end Decimal
end CalcSheet
