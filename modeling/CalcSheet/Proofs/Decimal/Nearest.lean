import CalcSheet.Proofs.Decimal.Rational
import Mathlib.Algebra.Order.Field.Power
import Mathlib.Algebra.Order.Field.Rat
import Mathlib.Tactic.GCongr
import Mathlib.Tactic.Linarith
import Mathlib.Tactic.Positivity

/-!
# How far rounding goes

Rounding to a precision changes a number by at most half a unit of the last digit that is kept, and
leaves it alone if it can be written with that precision. So the relative error is bounded, except
below the range in which all digits are kept.
-/
namespace CalcSheet.Decimal

variable {p k n d : Nat} {tie : Tie} {x y : Decimal} {least : Int} {v : ℚ}

/-! ### Dropping digits -/

/-- The nearest multiple of `d` is at most half of `d` away. -/
theorem two_mul_abs_divNearest (tie : Tie) (n : Nat) (pos : 0 < d) :
    2 * |(divNearest tie n d * d : ℤ) - n| ≤ d := by
  have whole := Nat.div_add_mod' n d
  have short := Nat.mod_lt n pos
  unfold divNearest
  dsimp only
  generalize n / d = q at *
  generalize n % d = r at *
  have below (small : 2 * r ≤ d) : 2 * |(q * d : ℤ) - n| ≤ d := by
    rw [← whole, show (q * d : ℤ) - (q * d + r : ℕ) = -r by push_cast; ring, abs_neg, Nat.abs_cast]
    exact_mod_cast small
  have above (large : d ≤ 2 * r) : 2 * |((q + 1 : ℕ) * d : ℤ) - n| ≤ d := by
    rw [← whole, show ((q + 1 : ℕ) * d : ℤ) - (q * d + r : ℕ) = (d - r : ℕ) by
      push_cast [Nat.cast_sub short.le]; ring, Nat.abs_cast]
    omega
  split
  · next small => exact below small.le
  · split
    · next large => exact above large.le
    · have tied : 2 * r = d := by omega
      cases tie with
      | awayFromZero => exact above tied.ge
      | toEven =>
        dsimp only
        split
        · exact below tied.le
        · exact above tied.ge

/-- Where all digits are dropped, less than a tenth of a unit is. -/
theorem ten_mul_lt_of_count_lt {c : Nat} (all : Digits.count c < k) : 10 * c < 10 ^ k := by
  have small : c < 10 ^ (k - 1) :=
    Nat.lt_of_lt_of_le (Digits.lt_pow_count c)
      (Nat.pow_le_pow_right (by decide) (Nat.le_sub_one_of_lt all))
  have tenfold : 10 ^ k = 10 ^ (k - 1) * 10 := by
    rw [← Nat.pow_succ, Nat.succ_eq_add_one, Nat.sub_add_cancel (by omega)]
  omega

theorem two_mul_abs_dropDigits (tie : Tie) (c k : Nat) :
    2 * |(dropDigits tie c k : ℚ) * 10 ^ k - c| ≤ 10 ^ k := by
  suffices whole : 2 * |(dropDigits tie c k * (10 ^ k : ℕ) : ℤ) - c| ≤ (10 ^ k : ℕ) by
    exact_mod_cast whole
  unfold dropDigits
  split
  · next all =>
    have small := ten_mul_lt_of_count_lt all
    rw [Nat.cast_zero, zero_mul, zero_sub, abs_neg, Nat.abs_cast]
    omega
  · exact two_mul_abs_divNearest tie c (Nat.pow_pos (by decide))

@[simp] theorem dropDigits_zero_right (tie : Tie) (c : Nat) : dropDigits tie c 0 = c := by
  simp [dropDigits, divNearest, Digits.tenPow, Nat.mod_one]

/-- Zeros are dropped without a change. -/
theorem dropDigits_mul_tenPow (tie : Tie) (c k : Nat) : dropDigits tie (c * 10 ^ k) k = c := by
  rcases Nat.eq_zero_or_pos c with rfl | pos
  · rw [Nat.zero_mul, dropDigits_zero]
  · have divisor : 0 < 10 ^ k := Nat.pow_pos (by decide)
    have counted : Digits.count (c * 10 ^ k) = Digits.count c + k := Digits.count_mul_tenPow pos k
    rw [dropDigits, if_neg (by omega)]
    change divNearest tie (c * 10 ^ k) (10 ^ k) = c
    simp [divNearest, divisor]

theorem dropDigits_le (tie : Tie) {c k : Nat} (kept : Digits.count c ≤ p + k) :
    dropDigits tie c k ≤ 10 ^ p := by
  unfold dropDigits
  split
  · exact Nat.zero_le _
  · refine (divNearest_le tie c _).trans (Nat.succ_le_of_lt (Nat.div_lt_of_lt_mul ?_))
    change c < 10 ^ k * 10 ^ p
    rw [← Nat.pow_add, Nat.add_comm]
    exact (Digits.lt_pow_count c).trans_le (Nat.pow_le_pow_right (by decide) kept)

/-! ### Size -/

/-- Minus one for a number with a minus sign, and otherwise one. -/
def sign (x : Decimal) : ℚ := if x.negative then -1 else 1

@[simp] theorem abs_sign (x : Decimal) : |x.sign| = 1 := by
  unfold sign
  split <;> simp

theorem toRat_eq (x : Decimal) : x.toRat = x.sign * (x.coefficient * 10 ^ x.exponent) := by
  unfold toRat sign signedCoefficient
  split <;> simp

theorem abs_toRat (x : Decimal) : |x.toRat| = x.coefficient * 10 ^ x.exponent := by
  have positive : 0 ≤ (x.coefficient * 10 ^ x.exponent : ℚ) := by positivity
  rw [toRat_eq, abs_mul, abs_sign, one_mul, abs_of_nonneg positive]

theorem toRat_nonpos (negative : x.negative = true) : x.toRat ≤ 0 := by
  rw [toRat, signedCoefficient, if_pos negative, Int.cast_neg, neg_mul, Int.cast_natCast]
  exact neg_nonpos.2 (by positivity)

theorem zpow_order (x : Decimal) : (10 : ℚ) ^ x.order
    = ((10 ^ (Digits.count x.coefficient - 1) : ℕ) : ℚ) * 10 ^ x.exponent := by
  have digits := Digits.one_le_count x.coefficient
  rw [show x.order = (Digits.count x.coefficient - 1 : ℕ) + x.exponent by unfold order; omega,
    zpow_add₀ (by norm_num), zpow_natCast, Nat.cast_pow, Nat.cast_ofNat]

/-- The exponent of the leading digit says how large a number is. -/
theorem zpow_order_le (nonzero : ¬ x.IsZero) : (10 : ℚ) ^ x.order ≤ |x.toRat| := by
  have leading : ((10 ^ (Digits.count x.coefficient - 1) : ℕ) : ℚ) ≤ x.coefficient :=
    Nat.cast_le.2 (Digits.pow_count (Nat.pos_of_ne_zero nonzero)).1
  rw [abs_toRat, zpow_order]
  exact mul_le_mul_of_nonneg_right leading (by positivity)

theorem lt_zpow_order (x : Decimal) : |x.toRat| < 10 ^ (x.order + 1) := by
  have all : (x.coefficient : ℚ) < ((10 ^ Digits.count x.coefficient : ℕ) : ℚ) :=
    Nat.cast_lt.2 (Digits.lt_pow_count x.coefficient)
  rw [abs_toRat, show x.order + 1 = (Digits.count x.coefficient : ℕ) + x.exponent by
    unfold order; omega, zpow_add₀ (by norm_num), zpow_natCast]
  exact mul_lt_mul_of_pos_right (by exact_mod_cast all) (by positivity)

/-! ### The last place -/

/-- The exponent of the last digit that rounding keeps. -/
def lastPlace (p : Nat) (least : Int) (x : Decimal) : Int :=
  max x.exponent (max least (x.exponent + Digits.count x.coefficient - p))

theorem exists_lastPlace_eq (p : Nat) (least : Int) (x : Decimal) :
    ∃ k : Nat, lastPlace p least x = k + x.exponent := by
  have fine : x.exponent ≤ lastPlace p least x := le_max_left _ _
  exact ⟨(lastPlace p least x - x.exponent).toNat, by omega⟩

/-- Where rounding carries into a new digit, the others are zeros. -/
theorem toRat_roundAbove (pos : 0 < p) (least : Int) (x : Decimal) :
    (roundAbove p least x).toRat
      = x.sign * (dropDigits .toEven x.coefficient (lastPlace p least x - x.exponent).toNat
        * 10 ^ lastPlace p least x) := by
  have kept : Digits.count x.coefficient ≤ p + (lastPlace p least x - x.exponent).toNat := by
    unfold lastPlace
    omega
  have le := dropDigits_le .toEven kept
  unfold roundAbove
  dsimp only
  rw [← lastPlace]
  generalize lastPlace p least x = e at *
  generalize dropDigits .toEven x.coefficient (e - x.exponent).toNat = c at *
  split
  · next long =>
    obtain rfl : c = 10 ^ p := by
      refine le.antisymm (Nat.le_of_not_lt fun short => ?_)
      exact absurd long (Nat.not_lt.2 (Digits.count_le pos short))
    obtain ⟨m, rfl⟩ := Nat.exists_eq_succ_of_ne_zero pos.ne'
    rw [toRat_eq, Nat.pow_succ, Nat.mul_div_cancel _ (by decide), zpow_add₀ (by norm_num)]
    push_cast
    rw [mul_comm (10 ^ e : ℚ) 10, ← mul_assoc (10 ^ m : ℚ) 10]
    rfl
  · exact toRat_eq _

/-- How far the rounded number is from another one with the same sign, of which the coefficient is
not always a whole number. -/
theorem abs_toRat_roundAbove_sub (pos : 0 < p) (place : lastPlace p least x = k + x.exponent)
    (t : ℚ) :
    |(roundAbove p least x).toRat - x.sign * (t * 10 ^ x.exponent)|
      = |dropDigits .toEven x.coefficient k * 10 ^ k - t| * 10 ^ x.exponent := by
  have scaled : x.sign * (dropDigits .toEven x.coefficient k * 10 ^ (k + x.exponent : ℤ))
        - x.sign * (t * 10 ^ x.exponent)
      = x.sign * ((dropDigits .toEven x.coefficient k * 10 ^ k - t) * 10 ^ x.exponent) := by
    rw [zpow_add₀ (by norm_num), zpow_natCast]
    ring
  rw [toRat_roundAbove pos, place, add_sub_cancel_right, Int.toNat_natCast, scaled, abs_mul,
    abs_sign, one_mul, abs_mul, abs_of_pos (zpow_pos (show (0 : ℚ) < 10 by norm_num) _)]

/-- The error of rounding is at most half a unit of the last place. -/
theorem two_mul_abs_roundAbove_sub (pos : 0 < p) (least : Int) (x : Decimal) :
    2 * |(roundAbove p least x).toRat - x.toRat| ≤ 10 ^ lastPlace p least x := by
  obtain ⟨k, place⟩ := exists_lastPlace_eq p least x
  rw [toRat_eq x, abs_toRat_roundAbove_sub pos place, place, zpow_add₀ (by norm_num), zpow_natCast,
    ← mul_assoc]
  exact mul_le_mul_of_nonneg_right (two_mul_abs_dropDigits _ _ _) (by positivity)

/-- Where no digit is dropped, rounding changes nothing. -/
theorem toRat_roundAbove_of_le (pos : 0 < p) (fine : lastPlace p least x ≤ x.exponent) :
    (roundAbove p least x).toRat = x.toRat := by
  have place : lastPlace p least x = x.exponent := le_antisymm fine (le_max_left _ _)
  rw [toRat_roundAbove pos, place, Int.sub_self, Int.toNat_zero, dropDigits_zero_right, toRat_eq x]

theorem toRat_of_round (pos : 0 < p) (rounded : x.round p = .ok y) :
    y.toRat = (roundAbove p (minExponent p) x).toRat := by
  unfold round at rounded
  split at rounded
  · next zero =>
    obtain rfl := Except.ok.inj rounded
    have none : x.coefficient = 0 := zero
    rw [toRat_roundAbove pos, none, dropDigits_zero, Nat.cast_zero, zero_mul, mul_zero]
    exact toRat_eq_zero.2 rfl
  · dsimp only at rounded
    split at rounded
    · exact nomatch rounded
    · obtain rfl := Except.ok.inj rounded
      rfl

/-! ### The relative error -/

/-- An approximation with a relative error of at most `ε`. -/
def IsNear (ε a b : ℚ) : Prop := |a - b| ≤ ε * |b|

namespace IsNear
variable {ε δ a b c : ℚ}

theorem refl (nonneg : 0 ≤ ε) (a : ℚ) : IsNear ε a a := by
  rw [IsNear, sub_self, abs_zero]
  positivity

theorem mono (h : IsNear ε a b) (le : ε ≤ δ) : IsNear δ a b :=
  h.trans (mul_le_mul_of_nonneg_right le (abs_nonneg b))

theorem mul_left (c : ℚ) (h : IsNear ε a b) : IsNear ε (c * a) (c * b) := by
  rw [IsNear, ← mul_sub, abs_mul, abs_mul, mul_left_comm]
  exact mul_le_mul_of_nonneg_left h (abs_nonneg c)

/-- Of errors that follow one another the second is one of a number with the first error. -/
theorem trans (nonneg : 0 ≤ ε) (h : IsNear ε a b) (h' : IsNear δ b c) :
    IsNear (ε + δ + ε * δ) a c := by
  have size : |b| ≤ (1 + δ) * |c| := by
    have apart := abs_sub_abs_le_abs_sub b c
    unfold IsNear at h'
    linarith
  calc |a - c| ≤ |a - b| + |b - c| := abs_sub_le a b c
    _ ≤ ε * |b| + δ * |c| := add_le_add h h'
    _ ≤ ε * ((1 + δ) * |c|) + δ * |c| := by gcongr
    _ = (ε + δ + ε * δ) * |c| := by ring

end IsNear

/-- The relative error of one rounding to `p` digits. -/
def halfUnit (p : Nat) : ℚ := 10 ^ (1 - p : ℤ) / 2

theorem halfUnit_nonneg (p : Nat) : 0 ≤ halfUnit p := by
  unfold halfUnit
  positivity

/-- Numbers that keep all their digits in the exponent range, however small the last one is. -/
def IsNormal (v : ℚ) : Prop := 10 ^ minOrder ≤ |v|

/-- Half a unit of the last place that rounding drops digits for is relatively small. -/
theorem zpow_lastPlace_le (normal : IsNormal v)
    (coarse : x.exponent < lastPlace p (minExponent p) x) (large : (10 : ℚ) ^ x.order ≤ |v|) :
    (10 : ℚ) ^ lastPlace p (minExponent p) x ≤ 10 ^ (1 - p : ℤ) * |v| := by
  have place : lastPlace p (minExponent p) x = (1 - p) + minOrder
      ∨ lastPlace p (minExponent p) x = (1 - p) + x.order := by
    unfold lastPlace minExponent order at *
    omega
  rcases place with place | place
  · rw [place, zpow_add₀ (by norm_num)]
    exact mul_le_mul_of_nonneg_left normal (by positivity)
  · rw [place, zpow_add₀ (by norm_num)]
    exact mul_le_mul_of_nonneg_left large (by positivity)

theorem isNear_round (pos : 0 < p) (rounded : x.round p = .ok y)
    (normal : IsNormal x.toRat) : IsNear (halfUnit p) y.toRat x.toRat := by
  have nonzero : ¬ x.IsZero := fun zero => by
    rw [IsNormal, toRat_eq_zero.2 zero, abs_zero] at normal
    exact absurd normal (not_le.2 (zpow_pos (by norm_num) _))
  rw [IsNear, toRat_of_round pos rounded, halfUnit]
  by_cases coarse : x.exponent < lastPlace p (minExponent p) x
  · have error := two_mul_abs_roundAbove_sub pos (minExponent p) x
    have place := zpow_lastPlace_le normal coarse (zpow_order_le nonzero)
    linarith
  · rw [toRat_roundAbove_of_le pos (not_lt.1 coarse), sub_self, abs_zero]
    positivity

/-! ### Numbers that need no rounding -/

/-- A rational number that can be written with at most `p` digits in the exponent range. -/
structure IsRepresentable (p : Nat) (v : ℚ) : Prop where
  written : ∃ c e : ℤ, v = c * 10 ^ e ∧ |c| < 10 ^ p ∧ minExponent p ≤ e
  inRange : |v| < 10 ^ (maxOrder + 1)

theorem IsRepresentable.neg (h : IsRepresentable p v) : IsRepresentable p (-v) := by
  obtain ⟨⟨c, e, rfl, digits, least⟩, range⟩ := h
  exact ⟨⟨-c, e, by push_cast; ring, by rwa [abs_neg], least⟩, by rwa [abs_neg]⟩

theorem isRepresentable_zero (p : Nat) : IsRepresentable p 0 :=
  ⟨⟨0, minExponent p, by simp, by simp, le_refl _⟩, by rw [abs_zero]; positivity⟩

theorem abs_lt_of_digits {c e : ℤ} (digits : |c| < 10 ^ p) :
    |(c * 10 ^ e : ℚ)| < 10 ^ (p + e) := by
  have power : |(c : ℚ)| < 10 ^ (p : ℤ) := by
    rw [zpow_natCast]
    exact_mod_cast digits
  rw [abs_mul, abs_of_pos (zpow_pos (show (0 : ℚ) < 10 by norm_num) e), zpow_add₀ (by norm_num)]
  exact mul_lt_mul_of_pos_right power (by positivity)

/-- A number that can be written with a larger exponent ends with zeros. -/
theorem exists_coefficient_eq {c e : ℤ} {k : Nat} (written : x.toRat = c * 10 ^ e)
    (le : x.exponent + k ≤ e) : ∃ m, x.coefficient = m * 10 ^ k := by
  obtain ⟨j, rfl⟩ : ∃ j : Nat, e = j + k + x.exponent := ⟨(e - k - x.exponent).toNat, by omega⟩
  have size : |x.toRat| = _ := congrArg (|·|) written
  have positive : (10 : ℚ) ^ x.exponent ≠ 0 := zpow_ne_zero _ (by norm_num)
  rw [abs_toRat, abs_mul, abs_of_pos (zpow_pos (show (0 : ℚ) < 10 by norm_num) _),
    zpow_add₀ (by norm_num), ← mul_assoc, mul_left_inj' positive, zpow_add₀ (by norm_num),
    zpow_natCast, zpow_natCast] at size
  refine ⟨c.natAbs * 10 ^ j, ?_⟩
  have cast : (c.natAbs : ℚ) = |(c : ℚ)| := by rw [Nat.cast_natAbs, Int.cast_abs]
  rw [← cast] at size
  rw [Nat.mul_assoc]
  exact_mod_cast size

/-- Rounding drops none of the digits that a representable number needs. -/
theorem toRat_roundAbove_of_isRepresentable (pos : 0 < p) (fits : IsRepresentable p x.toRat) :
    (roundAbove p (minExponent p) x).toRat = x.toRat := by
  by_cases fine : lastPlace p (minExponent p) x ≤ x.exponent
  · exact toRat_roundAbove_of_le pos fine
  obtain ⟨⟨c, e, written, digits, least⟩, -⟩ := fits
  obtain ⟨k, place⟩ := exists_lastPlace_eq p (minExponent p) x
  have zeros : ∃ m, x.coefficient = m * 10 ^ k := by
    by_cases zero : x.IsZero
    · exact ⟨0, by rw [Nat.zero_mul]; exact zero⟩
    · have leading := zpow_order_le zero
      rw [written] at leading
      have order :=
        (zpow_lt_zpow_iff_right₀ (by norm_num)).1 (leading.trans_lt (abs_lt_of_digits digits))
      refine exists_coefficient_eq written ?_
      unfold lastPlace Decimal.order at *
      omega
  obtain ⟨m, coefficient⟩ := zeros
  rw [toRat_roundAbove pos, place, add_sub_cancel_right, Int.toNat_natCast, coefficient,
    dropDigits_mul_tenPow, toRat_eq x, coefficient, zpow_add₀ (by norm_num), zpow_natCast]
  push_cast
  rw [mul_assoc (m : ℚ)]

theorem round_of_isRepresentable (pos : 0 < p) (fits : IsRepresentable p x.toRat) :
    ∃ y, x.round p = .ok y ∧ y.toRat = x.toRat := by
  have same := toRat_roundAbove_of_isRepresentable pos fits
  unfold round
  split
  · next zero => exact ⟨_, rfl, by rw [toRat_eq_zero.2 zero]; exact toRat_eq_zero.2 zero⟩
  · dsimp only
    rw [if_neg fun above => ?_]
    · exact ⟨_, rfl, same⟩
    · have large := zpow_order_le above.1
      rw [same] at large
      have order := (zpow_lt_zpow_iff_right₀ (by norm_num)).1 (large.trans_lt fits.inRange)
      have beyond := above.2
      omega

theorem exponent_of_round (rounded : x.round p = .ok y) : minExponent p ≤ y.exponent := by
  have limit := minExponent_le p
  unfold round at rounded
  split at rounded
  · obtain rfl := Except.ok.inj rounded
    dsimp only
    omega
  · dsimp only at rounded
    split at rounded
    · exact nomatch rounded
    · obtain rfl := Except.ok.inj rounded
      unfold roundAbove
      dsimp only
      split
      · dsimp only
        omega
      · dsimp only
        omega

/-- What has been rounded is not changed by rounding it again. -/
theorem round_of_round (pos : 0 < p) (rounded : x.round p = .ok y) : y.round p = .ok y := by
  have within := isWithin_of_round pos rounded
  have least := exponent_of_round rounded
  have digits := Digits.one_le_count y.coefficient
  have order := within.order
  have exponent : y.exponent ≤ maxOrder := by
    unfold Decimal.order at order
    omega
  have place : max y.exponent (max (minExponent p) (y.exponent + Digits.count y.coefficient - p))
      = y.exponent := by
    have kept := within.digits
    omega
  have same : roundAbove p (minExponent p) y = y := by
    unfold roundAbove
    dsimp only
    rw [place, Int.sub_self, Int.toNat_zero, dropDigits_zero_right,
      if_neg (Nat.not_lt.2 within.digits)]
  unfold round
  rw [same]
  split
  · rw [max_eq_right least, min_eq_right exponent]
  · exact if_neg fun above => absurd above.2 (Int.not_lt.2 order)

end CalcSheet.Decimal
