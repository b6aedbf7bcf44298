import CalcSheet.Proofs.Decimal.Nearest

/-!
# Rounding to a place

A number is rounded to the nearest multiple of a power of ten, and from halfway between two of them
away from zero. So the result is determined by the number, however this is written.
-/
namespace CalcSheet.Decimal

variable {places e : Int} {p k c : Nat} {tie : Tie} {q r r' : ℚ} {m n : ℤ} {x y : Decimal}

/-! ### The nearest multiple -/

/-- The number `r` is the multiple of `10 ^ -places` that is nearest to `q`. Of two that are as near
it is the one further from zero. -/
structure RoundsTo (places : Int) (q r : ℚ) : Prop where
  multiple : ∃ n : ℤ, r = n * 10 ^ (-places)
  near : 2 * |r - q| ≤ 10 ^ (-places)
  away : 2 * |r - q| = 10 ^ (-places) → |q| ≤ |r|

namespace RoundsTo

/-- Multiples are not rounded. -/
theorem refl (n : ℤ) : RoundsTo places (n * 10 ^ (-places)) (n * 10 ^ (-places)) := by
  refine ⟨⟨n, rfl⟩, ?_, fun _ => le_refl _⟩
  rw [sub_self, abs_zero, mul_zero]
  positivity

theorem result (h : RoundsTo places q r) : RoundsTo places r r := by
  obtain ⟨n, rfl⟩ := h.multiple
  exact refl n

theorem neg (h : RoundsTo places q r) : RoundsTo places (-q) (-r) := by
  obtain ⟨⟨n, multiple⟩, near, away⟩ := h
  have distance : |-r - -q| = |r - q| := by rw [← neg_sub', abs_neg]
  refine ⟨⟨-n, by rw [multiple]; push_cast; ring⟩, distance ▸ near, fun tied => ?_⟩
  rw [abs_neg, abs_neg]
  exact away (distance ▸ tied)

/-- No number is rounded to two of its neighbours: halfway between them the one nearer to zero is
out. -/
theorem not_lt_multiple (h : RoundsTo places q (m * 10 ^ (-places)))
    (h' : RoundsTo places q (n * 10 ^ (-places))) : ¬ m < n := by
  intro less
  have unit : (0 : ℚ) < 10 ^ (-places) := zpow_pos (by norm_num) _
  obtain ⟨-, near, away⟩ := h
  obtain ⟨-, near', away'⟩ := h'
  generalize (10 : ℚ) ^ (-places) = u at *
  have apart : ((m : ℚ) + 1) * u ≤ n * u :=
    mul_le_mul_of_nonneg_right (by exact_mod_cast less) unit.le
  have low := neg_abs_le (m * u - q)
  have high := le_abs_self (n * u - q)
  have next : n * u = m * u + u := by linarith
  have half : q = m * u + u / 2 := by linarith
  have below : |m * u - q| = u / 2 := by
    rw [half, sub_add_cancel_left, abs_neg, abs_of_pos (by linarith)]
  have above : |n * u - q| = u / 2 := by
    rw [next, half, add_sub_add_left_eq_sub, sub_half, abs_of_pos (by linarith)]
  rcases lt_or_ge m 0 with negative | nonneg
  · have upper : n * u ≤ 0 := by
      have multiple : ((m : ℚ) + 1) * u ≤ 0 :=
        mul_nonpos_of_nonpos_of_nonneg (by exact_mod_cast negative) unit.le
      linarith
    have out := away' (by rw [above]; ring)
    rw [abs_of_nonpos upper, abs_of_nonpos (by linarith)] at out
    linarith
  · have lower : 0 ≤ m * u := mul_nonneg (by exact_mod_cast nonneg) unit.le
    have out := away (by rw [below]; ring)
    rw [abs_of_nonneg lower, abs_of_nonneg (by linarith)] at out
    linarith

theorem unique (h : RoundsTo places q r) (h' : RoundsTo places q r') : r = r' := by
  obtain ⟨m, rfl⟩ := h.multiple
  obtain ⟨n, rfl⟩ := h'.multiple
  rw [le_antisymm (Int.not_lt.1 (h'.not_lt_multiple h)) (Int.not_lt.1 (h.not_lt_multiple h'))]

/-- Rounding does not change the sign. -/
theorem nonneg (h : RoundsTo places q r) (positive : 0 ≤ q) : 0 ≤ r := by
  obtain ⟨n, rfl⟩ := h.multiple
  have unit : (0 : ℚ) < 10 ^ (-places) := zpow_pos (by norm_num) _
  by_contra negative
  have below : n ≤ -1 := by
    by_contra other
    have natural : 0 ≤ n := by omega
    exact negative (mul_nonneg (by exact_mod_cast natural) unit.le)
  have far : (n : ℚ) * 10 ^ (-places) ≤ -1 * 10 ^ (-places) :=
    mul_le_mul_of_nonneg_right (by exact_mod_cast below) unit.le
  have near := h.near
  have apart := neg_abs_le (n * 10 ^ (-places) - q)
  linarith

/-- The sign of a number has no part in its rounding. -/
theorem abs (h : RoundsTo places q r) : RoundsTo places |q| |r| := by
  rcases le_total 0 q with positive | negative
  · rwa [abs_of_nonneg positive, abs_of_nonneg (h.nonneg positive)]
  · have opposite := h.neg.nonneg (neg_nonneg.2 negative)
    rw [abs_of_nonpos negative, abs_of_nonpos (neg_nonneg.1 opposite)]
    exact h.neg

theorem eq_zero (h : RoundsTo places 0 r) : r = 0 := by
  have zero : RoundsTo places (0 : ℤ) (0 : ℤ) := by simpa using @refl places 0
  exact h.unique (by simpa using zero)

end RoundsTo

/-! ### Rounded decimals -/

theorem toRat_neg_iff : x.toRat < 0 ↔ x.IsNegative := by
  have zero : x.toRat = 0 ↔ x.IsZero := toRat_eq_zero
  unfold IsNegative
  cases negative : x.negative with
  | true =>
    have nonpos := toRat_nonpos negative
    simp [lt_iff_le_and_ne, nonpos, zero]
  | false =>
    have nonneg : 0 ≤ x.toRat := by
      rw [toRat_eq, sign, negative]
      simp only [Bool.false_eq_true, if_false, one_mul]
      positivity
    simp [nonneg]

theorem two_mul_lt_of_divNearest {d : Nat} (pos : 0 < d)
    (down : divNearest .awayFromZero c d * d < c) :
    2 * c < 2 * (divNearest .awayFromZero c d * d) + d := by
  have whole := Nat.div_add_mod' c d
  have short := Nat.mod_lt c pos
  by_cases small : 2 * (c % d) < d
  · have nearest : divNearest .awayFromZero c d = c / d := if_pos small
    rw [nearest]
    omega
  · have nearest : divNearest .awayFromZero c d = c / d + 1 := by
      rw [divNearest, if_neg small]
      exact ite_self _
    rw [nearest, Nat.succ_mul] at down
    omega

/-- Half a unit is not dropped. -/
theorem two_mul_lt_of_dropDigits (down : dropDigits .awayFromZero c k * 10 ^ k < c) :
    2 * c < 2 * (dropDigits .awayFromZero c k * 10 ^ k) + 10 ^ k := by
  unfold dropDigits at *
  split
  · next all =>
    have small := ten_mul_lt_of_count_lt all
    omega
  · next kept =>
    rw [if_neg kept] at down
    exact two_mul_lt_of_divNearest (Nat.pow_pos (by decide)) down

/-- How far a number is from one of its sign with the coefficient `c`, `k` digits shorter. -/
theorem abs_toRat_sub (x : Decimal) (c k : Nat) :
    |toRat ⟨x.negative, c, k + x.exponent⟩ - x.toRat|
      = |(c : ℚ) * 10 ^ k - x.coefficient| * 10 ^ x.exponent := by
  have scaled : toRat ⟨x.negative, c, k + x.exponent⟩ - x.toRat
      = x.sign * ((c * 10 ^ k - x.coefficient) * 10 ^ x.exponent) := by
    rw [toRat_eq, toRat_eq x, zpow_add₀ (by norm_num), zpow_natCast]
    change x.sign * _ - _ = _
    ring
  rw [scaled, abs_mul, abs_sign, one_mul, abs_mul,
    abs_of_pos (zpow_pos (show (0 : ℚ) < 10 by norm_num) _)]

theorem roundsTo_rounded (places : Int) (x : Decimal) :
    RoundsTo places x.toRat (x.rounded places).toRat := by
  by_cases coarse : x.exponent < -places
  · obtain ⟨k, place⟩ : ∃ k : Nat, -places = k + x.exponent :=
      ⟨(-places - x.exponent).toNat, by omega⟩
    have kept : (-places - x.exponent).toNat = k := by omega
    have distance := abs_toRat_sub x (dropDigits .awayFromZero x.coefficient k) k
    rw [rounded, if_pos coarse, kept]
    refine ⟨⟨_, rfl⟩, ?_, fun tied => ?_⟩
    · rw [place, distance, zpow_add₀ (by norm_num), zpow_natCast, ← mul_assoc]
      exact mul_le_mul_of_nonneg_right (two_mul_abs_dropDigits _ _ _) (by positivity)
    · rw [place, distance, zpow_add₀ (by norm_num), zpow_natCast, ← mul_assoc,
        mul_left_inj' (zpow_ne_zero _ (by norm_num))] at tied
      have kept : x.coefficient ≤ dropDigits .awayFromZero x.coefficient k * 10 ^ k := by
        by_contra down
        have less : (dropDigits .awayFromZero x.coefficient k * 10 ^ k : ℚ) < x.coefficient := by
          exact_mod_cast not_le.1 down
        have close : (2 * x.coefficient : ℚ)
            < 2 * (dropDigits .awayFromZero x.coefficient k * 10 ^ k) + 10 ^ k := by
          exact_mod_cast two_mul_lt_of_dropDigits (not_le.1 down)
        rw [abs_of_neg (sub_neg.2 less)] at tied
        linarith
      rw [abs_toRat, abs_toRat, place, zpow_add₀ (by norm_num), zpow_natCast, ← mul_assoc]
      exact mul_le_mul_of_nonneg_right (by exact_mod_cast kept) (by positivity)
  · rw [rounded, if_neg coarse, toRat_eq_scaledTo (not_lt.1 coarse)]
    exact .refl _

/-- What is written with an exponent: the same number with zeros behind it, or without the digits
that are too many. -/
theorem eq_of_quantize (written : x.quantize p tie e = .ok y) :
    y = ⟨x.negative,
      if e ≤ x.exponent then x.coefficient * Digits.tenPow (x.exponent - e).toNat
      else dropDigits tie x.coefficient (e - x.exponent).toNat, e⟩ := by
  unfold quantize at written
  split at written
  · exact nomatch written
  · split at written
    · next zero =>
      obtain rfl := Except.ok.inj written
      rw [show x.coefficient = 0 from zero, Nat.zero_mul, dropDigits_zero, ite_self]
    · split at written
      · exact nomatch written
      · dsimp only at written
        generalize (if e ≤ x.exponent then x.coefficient * Digits.tenPow (x.exponent - e).toNat
          else dropDigits tie x.coefficient (e - x.exponent).toNat) = c at *
        split at written
        · exact nomatch written
        · exact (Except.ok.inj written).symm

theorem toRat_of_quantize_of_le (fine : e ≤ x.exponent) (written : x.quantize p tie e = .ok y) :
    y.toRat = x.toRat := by
  rw [eq_of_quantize written, if_pos fine, toRat_eq_scaledTo fine, scaledTo_eq, toRat,
    signedCoefficient, signedCoefficient]
  split <;> push_cast <;> ring

/-- A number is rounded to its last place, however many zeros are kept behind it. -/
theorem roundsTo_of_quantize
    (written : x.quantize p .awayFromZero (max (-places) (min 0 x.exponent)) = .ok y) :
    RoundsTo places x.toRat y.toRat := by
  have rounds := roundsTo_rounded places x
  unfold rounded at rounds
  split at rounds
  · next coarse =>
    rw [show max (-places) (min 0 x.exponent) = -places by omega] at written
    rwa [eq_of_quantize written, if_neg (not_le.2 coarse)]
  · next fine =>
    rwa [toRat_of_quantize_of_le (by omega) written]

/-! ### The exponent range -/

theorem order_le_of_toRat_eq (nonzero : ¬ x.IsZero) (same : x.toRat = y.toRat) :
    x.order ≤ y.order := by
  have low := zpow_order_le nonzero
  rw [same] at low
  have between := (zpow_lt_zpow_iff_right₀ (by norm_num)).1 (low.trans_lt (lt_zpow_order y))
  exact Int.lt_add_one_iff.1 between

/-- A multiple is not rounded out of the exponent range. -/
theorem order_rounded_of_roundsTo (self : RoundsTo places x.toRat x.toRat)
    (range : x.order ≤ maxOrder) (least : -maxOrder ≤ places) :
    (x.rounded places).order ≤ maxOrder := by
  have same := (roundsTo_rounded places x).unique self
  by_cases zero : (x.rounded places).IsZero
  · have none : x.IsZero := toRat_eq_zero.1 (same ▸ toRat_eq_zero.2 zero)
    rw [rounded]
    split
    · rw [show x.coefficient = 0 from none, dropDigits_zero]
      exact (isWithin_zero Nat.one_pos _ (by omega)).order
    · exact range
  · exact (order_le_of_toRat_eq zero same).trans range

end CalcSheet.Decimal
