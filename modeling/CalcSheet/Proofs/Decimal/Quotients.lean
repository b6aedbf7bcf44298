import CalcSheet.Proofs.Decimal.Nearest
import Mathlib.Data.Nat.Cast.Field
import Mathlib.Data.Nat.Cast.Order.Field
import Mathlib.Tactic.FieldSimp

/-!
# How far products and quotients are off

The exact product is rounded once. A quotient is cut off before it is rounded, but its last digit
shows that there is more behind it, so it is rounded as the exact one would be.
-/
namespace CalcSheet
namespace Decimal

variable {p k c q n d : Nat} {x y z : Decimal} {v : ℚ}

/-- The result is the exact one, or this is not below the range in which all digits are kept. -/
def IsSafe (v : ℚ) (z : Decimal) : Prop := z.toRat = v ∨ IsNormal v

theorem isNear_of_round (pos : 0 < p) (rounded : x.round p = .ok z) (exact : x.toRat = v)
    (safe : IsSafe v z) : IsNear (halfUnit p) z.toRat v := by
  rcases safe with same | normal
  · rw [same]
    exact .refl (halfUnit_nonneg p) v
  · rw [← exact] at normal ⊢
    exact isNear_round pos rounded normal

theorem sign_eq_mul {s : Decimal} (negative : s.negative = (x.negative != y.negative)) :
    s.sign = x.sign * y.sign := by
  unfold sign
  rw [negative]
  cases x.negative <;> cases y.negative <;> simp

/-! ### Products -/

/-- What is rounded for a product is the exact one. -/
theorem toRat_mul_exact (x y : Decimal) : toRat ⟨x.negative != y.negative,
    x.coefficient * y.coefficient, x.exponent + y.exponent⟩ = x.toRat * y.toRat := by
  rw [toRat_eq, sign_eq_mul (x := x) (y := y) rfl, zpow_add₀ (by norm_num), toRat_eq x, toRat_eq y]
  push_cast
  ring

theorem isNear_mul (pos : 0 < p) (done : mul p x y = .ok z) (safe : IsSafe (x.toRat * y.toRat) z) :
    IsNear (halfUnit p) z.toRat (x.toRat * y.toRat) :=
  isNear_of_round pos done (toRat_mul_exact x y) safe

/-! ### Quotients that come out -/

theorem stripZeros_eq (k c : Nat) : c = (stripZeros k c).1 * 10 ^ (stripZeros k c).2 := by
  induction k generalizing c with
  | zero => simp [stripZeros]
  | succ k ih =>
    unfold stripZeros
    split
    · next zero =>
      have shorter := ih (c / 10)
      dsimp only
      rw [Nat.pow_succ, ← Nat.mul_assoc, ← shorter]
      omega
    · simp

/-! ### Quotients that do not come out -/

/-- A number that does not end with a five or a zero is nowhere halfway. -/
theorem abs_dropDigits_sub_lt (tie : Tie) (pos : 0 < k) (sticky : c % 5 ≠ 0) :
    2 * (|(dropDigits tie c k : ℚ) * 10 ^ k - c| + 1) ≤ 10 ^ k := by
  have near := two_mul_abs_dropDigits tie c k
  obtain ⟨k, rfl⟩ := Nat.exists_eq_succ_of_ne_zero pos.ne'
  generalize dropDigits tie c (k + 1) = m at *
  have near : 2 * |(m * (10 * 10 ^ k) - c : ℤ)| ≤ 10 * 10 ^ k := by
    rw [pow_succ, mul_comm (10 ^ k : ℚ)] at near
    exact_mod_cast near
  suffices h : 2 * (|(m * (10 * 10 ^ k) - c : ℤ)| + 1) ≤ 10 * 10 ^ k by
    rw [pow_succ, mul_comm (10 ^ k : ℚ)]
    exact_mod_cast h
  have fives : (m * (10 * 10 ^ k) : ℤ) = 5 * (m * (2 * 10 ^ k)) := by ring
  rw [fives] at near ⊢
  generalize (10 ^ k : ℤ) = t at *
  generalize (m * (2 * t) : ℤ) = s at *
  rcases abs_cases (5 * s - c : ℤ) with ⟨size, -⟩ | ⟨size, -⟩
  · rw [size] at near ⊢
    omega
  · rw [size] at near ⊢
    omega

/-- What stands for a quotient that does not come out: its digits, with one more at their end where
they would seem to be all, or half of the digit before. -/
def sticky (q : Nat) : Nat := if q % 5 = 0 then q + 1 else q

theorem sticky_mod_ne_zero (q : Nat) : sticky q % 5 ≠ 0 := by
  unfold sticky
  split <;> omega

theorem le_sticky (q : Nat) : q ≤ sticky q := by
  unfold sticky
  split <;> omega

theorem abs_sticky_sub_le {t : ℚ} (lower : q ≤ t) (upper : t ≤ q + 1) :
    |(sticky q : ℚ) - t| ≤ 1 := by
  unfold sticky
  rw [abs_le]
  split
  · push_cast
    constructor <;> linarith
  · constructor <;> linarith

/-- The last digit does not add one in front. -/
theorem pow_le_of_sticky (pos : 0 < k) (large : 10 ^ k ≤ sticky q) : 10 ^ k ≤ q := by
  obtain ⟨k, rfl⟩ := Nat.exists_eq_succ_of_ne_zero pos.ne'
  rw [Nat.pow_succ] at large ⊢
  generalize 10 ^ k = t at *
  unfold sticky at large
  split at large <;> omega

/-- A number that is close to one with many digits is rounded like it. -/
theorem isNear_round_sticky {e : ℤ} {t : ℚ} (negative : Bool) (lower : q ≤ t) (upper : t ≤ q + 1)
    (large : 10 ^ p ≤ q) (pos : 0 < p) (normal : IsNormal (t * 10 ^ e))
    (rounded : round p ⟨negative, sticky q, e⟩ = .ok z) :
    IsNear (halfUnit p) z.toRat ((if negative then -1 else 1) * (t * 10 ^ e)) := by
  let s : Decimal := ⟨negative, sticky q, e⟩
  have unit : (0 : ℚ) < 10 ^ e := by positivity
  have many : 10 ^ p ≤ sticky q := large.trans (le_sticky q)
  have digits : p < Digits.count (sticky q) := Digits.lt_count many
  obtain ⟨k, place⟩ := exists_lastPlace_eq p (minExponent p) s
  have coarse : 0 < k := by
    unfold lastPlace at place
    simp only [s] at place
    omega
  have leading : (10 : ℚ) ^ s.order ≤ |t * 10 ^ e| := by
    have first := (Digits.pow_count ((Nat.pow_pos (by decide)).trans_le many)).1
    have below : ((10 ^ (Digits.count (sticky q) - 1) : ℕ) : ℚ) ≤ t :=
      (Nat.cast_le.2 (pow_le_of_sticky (by omega) first)).trans lower
    rw [zpow_order, abs_mul, abs_of_nonneg ((Nat.cast_nonneg q).trans lower), abs_of_pos unit]
    exact mul_le_mul_of_nonneg_right below unit.le
  have error : 2 * |(dropDigits .toEven (sticky q) k : ℚ) * 10 ^ k - t| ≤ 10 ^ k := by
    have dropped := abs_dropDigits_sub_lt .toEven coarse (sticky_mod_ne_zero q)
    have cut := abs_sticky_sub_le lower upper
    have both := abs_sub_le ((dropDigits .toEven (sticky q) k : ℚ) * 10 ^ k) (sticky q) t
    linarith
  have size := zpow_lastPlace_le (x := s) (p := p) normal
    (place ▸ show e < k + e by omega) leading
  rw [place, zpow_add₀ (by norm_num), zpow_natCast] at size
  change IsNear _ _ (s.sign * (t * 10 ^ s.exponent))
  rw [IsNear, toRat_of_round pos rounded, abs_toRat_roundAbove_sub pos place, abs_mul, abs_sign,
    one_mul, halfUnit]
  have absolute := mul_le_mul_of_nonneg_right error unit.le
  linarith

/-! ### Quotients -/

/-- Operands written with more zeros have the same quotient. -/
theorem toRat_div_eq (x : Decimal) (nonzero : ¬ y.IsZero) (a b : Nat) :
    x.toRat / y.toRat = (if x.negative != y.negative then -1 else 1)
      * (((x.coefficient * 10 ^ a : ℕ) : ℚ) / ((y.coefficient * 10 ^ b : ℕ) : ℚ)
        * 10 ^ (x.exponent - y.exponent - (a - b) : ℤ)) := by
  have divisor : (y.coefficient : ℚ) ≠ 0 := Nat.cast_ne_zero.2 nonzero
  have signs : x.sign / y.sign = if x.negative != y.negative then -1 else 1 := by
    unfold sign
    cases x.negative <;> cases y.negative <;> simp
  rw [toRat_eq x, toRat_eq y, mul_div_mul_comm, signs, zpow_sub₀ (by norm_num),
    zpow_sub₀ (by norm_num), zpow_sub₀ (by norm_num), zpow_natCast, zpow_natCast]
  push_cast
  field_simp

/-- With enough zeros behind its left operand, a quotient has more digits than the precision. -/
theorem pow_le_quotient {m a b : Nat} (posn : 0 < n) (posm : 0 < m)
    (enough : Digits.count n + a = Digits.count m + b + p + 1) :
    10 ^ p ≤ n * 10 ^ a / (m * 10 ^ b) := by
  have some := Digits.one_le_count n
  have divisor : 0 < m * 10 ^ b := Nat.mul_pos posm (Nat.pow_pos (by decide))
  rw [Nat.le_div_iff_mul_le divisor]
  calc 10 ^ p * (m * 10 ^ b) ≤ 10 ^ p * (10 ^ Digits.count m * 10 ^ b) := by
        gcongr
        exact (Digits.lt_pow_count m).le
    _ = 10 ^ (Digits.count n - 1) * 10 ^ a := by
        rw [← Nat.pow_add, ← Nat.pow_add, ← Nat.pow_add]
        congr 1
        omega
    _ ≤ n * 10 ^ a := Nat.mul_le_mul_right _ (Digits.pow_count posn).1

/-- The rounded quotient of two natural numbers, times a power of ten. -/
def roundQuotient (p : Nat) (negative : Bool) (zeros n d : Nat) (e : Int) :
    Except Signal Decimal :=
  if n % d = 0 then
    let (short, dropped) := stripZeros zeros (n / d)
    round p ⟨negative, short, e + dropped⟩
  else round p ⟨negative, sticky (n / d), e⟩

theorem isNear_roundQuotient {negative : Bool} {zeros : Nat} {e : Int} (pos : 0 < p)
    (divisor : 0 < d) (large : 10 ^ p ≤ n / d)
    (same : v = (if negative then -1 else 1) * ((n : ℚ) / d * 10 ^ e))
    (done : roundQuotient p negative zeros n d e = .ok z) (safe : IsSafe v z) :
    IsNear (halfUnit p) z.toRat v := by
  have positive : (0 : ℚ) < d := Nat.cast_pos.2 divisor
  unfold roundQuotient at done
  split at done
  · next divides =>
    refine isNear_of_round pos done ?_ safe
    rw [same, ← Nat.cast_div (Nat.dvd_of_mod_eq_zero divides) positive.ne', toRat_eq]
    conv_rhs => rw [stripZeros_eq zeros (n / d)]
    push_cast
    rw [zpow_add₀ (by norm_num), zpow_natCast, mul_comm (10 ^ e : ℚ), ← mul_assoc (Nat.cast _ : ℚ)]
    rfl
  · rcases safe with equal | normal
    · rw [equal]
      exact .refl (halfUnit_nonneg p) v
    · have lower : ((n / d : ℕ) : ℚ) ≤ n / d := Nat.cast_div_le
      have upper : (n : ℚ) / d ≤ (n / d : ℕ) + 1 := by
        rw [div_le_iff₀ positive, mul_comm]
        exact_mod_cast (Nat.lt_mul_div_succ n divisor).le
      have size : |v| = |(n : ℚ) / d * 10 ^ e| := by
        rw [same, abs_mul]
        split <;> simp
      rw [IsNormal, size] at normal
      rw [same]
      exact isNear_round_sticky negative lower upper large pos normal done

/-- A quotient has the relative error of one rounding. -/
theorem isNear_div (pos : 0 < p) (done : div p x y = .ok z)
    (safe : IsSafe (x.toRat / y.toRat) z) :
    IsNear (halfUnit p) z.toRat (x.toRat / y.toRat) := by
  unfold div at done
  split at done
  · exact nomatch done
  next nonzero =>
  dsimp only at done
  split at done
  · next zero =>
    refine isNear_of_round pos done ?_ safe
    rw [toRat_eq_zero.2 zero, zero_div]
    exact toRat_eq_zero.2 rfl
  next nonzero' =>
  generalize shifted : (Digits.count y.coefficient - Digits.count x.coefficient + p + 1 : ℤ) = shift
    at done
  have some := Nat.pos_of_ne_zero nonzero
  have quotient := toRat_div_eq x nonzero shift.toNat (-shift).toNat
  rw [show x.exponent - y.exponent - (shift.toNat - (-shift).toNat : ℤ)
    = x.exponent - y.exponent - shift by omega] at quotient
  exact isNear_roundQuotient pos (Nat.mul_pos some (Nat.pow_pos (by decide)))
    (pow_le_quotient (Nat.pos_of_ne_zero nonzero') some (by omega)) quotient done safe

end Decimal
end CalcSheet
