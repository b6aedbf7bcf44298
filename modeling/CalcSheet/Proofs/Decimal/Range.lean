import CalcSheet.Decimal.Power
import CalcSheet.Proofs.Decimal.Integers
import CalcSheet.Proofs.Success

/-!
# Digits and the exponent range

How many digits rounding leaves, and where their exponents lie. What has been rounded has no more
digits than the precision, and its leading digit is in the exponent range.
-/
namespace CalcSheet
namespace Digits

variable {k m n : Nat}

theorem pow_order (pos : 0 < n) (fits : n < 10 ^ width k) :
    10 ^ order k n ≤ n ∧ n < 10 ^ (order k n + 1) := by
  induction k generalizing n with
  | zero => exact ⟨pos, fits⟩
  | succ k ih =>
    have block : 0 < 10 ^ width k := Nat.pow_pos (by decide)
    rw [order]
    split
    · next short => exact ih pos short
    · next long =>
      have rest : n / 10 ^ width k < 10 ^ width k := by
        apply Nat.div_lt_of_lt_mul
        rwa [← Nat.pow_add, ← width_succ]
      obtain ⟨low, high⟩ := ih (Nat.div_pos (Nat.le_of_not_lt long) block) rest
      constructor
      · rw [Nat.pow_add, Nat.mul_comm]
        exact Nat.le_trans (Nat.mul_le_mul_right _ low) (Nat.div_mul_le_self n _)
      · rw [Nat.add_assoc, Nat.pow_add, Nat.mul_comm]
        exact (Nat.div_lt_iff_lt_mul block).1 high

/-- A number lies between two powers of ten, as its digits count. -/
theorem pow_count (pos : 0 < n) : 10 ^ (count n - 1) ≤ n ∧ n < 10 ^ count n := by
  refine pow_order pos (Nat.lt_of_lt_of_le (lt_pow_width_depth n) ?_)
  exact Nat.pow_le_pow_left (by decide) _

theorem lt_pow_count (n : Nat) : n < 10 ^ count n := by
  rcases Nat.eq_zero_or_pos n with rfl | pos
  · exact Nat.pow_pos (by decide)
  · exact (pow_count pos).2

theorem one_le_count (n : Nat) : 1 ≤ count n := Nat.succ_pos _

theorem lt_count (reaches : 10 ^ m ≤ n) : m < count n :=
  (Nat.pow_lt_pow_iff_right (a := 10) (by decide)).1 (Nat.lt_of_le_of_lt reaches (lt_pow_count n))

theorem not_isWritable_tenPow {k : Nat} (long : maxLength ≤ k) :
    ¬ IsWritable (tenPow k : Nat) := by
  rw [IsWritable, Int.natAbs_natCast, Nat.not_le]
  exact Nat.lt_of_le_of_lt long (lt_count (Nat.le_refl _))

/-- Zeros behind a number are that many digits more. -/
theorem count_mul_tenPow (pos : 0 < n) (k : Nat) : count (n * tenPow k) = count n + k := by
  obtain ⟨low, high⟩ := pow_count pos
  have zeros : 0 < 10 ^ k := Nat.pow_pos (by decide)
  have some_ := one_le_count n
  apply Nat.le_antisymm
  · refine count_le (by omega) ?_
    rw [Nat.pow_add]
    exact Nat.mul_lt_mul_of_pos_right high zeros
  · have reaches : 10 ^ (count n - 1 + k) ≤ n * tenPow k := by
      rw [Nat.pow_add]
      exact Nat.mul_le_mul_right _ low
    have digits : count n - 1 + k < count (n * tenPow k) := lt_count reaches
    omega

end Digits

namespace Decimal

variable {p k c : Nat} {tie : Tie} {x y : Decimal} {least : Int}

/-! ### Dropping digits -/

theorem divNearest_le (tie : Tie) (n d : Nat) : divNearest tie n d ≤ n / d + 1 := by
  unfold divNearest
  dsimp only
  repeat' split
  all_goals omega

theorem le_divNearest (tie : Tie) (n d : Nat) : n / d ≤ divNearest tie n d := by
  unfold divNearest
  dsimp only
  repeat' split
  all_goals omega

/-- Rounding can add a digit to those that are kept, and not more. -/
theorem count_dropDigits (tie : Tie) (c k : Nat) :
    Digits.count (dropDigits tie c k) ≤ Digits.count c - k + 1 := by
  unfold dropDigits
  split
  · exact Nat.le_add_left 1 _
  · next kept =>
    refine Digits.count_le (Nat.succ_pos _) ?_
    have quotient : c / 10 ^ k < 10 ^ (Digits.count c - k) := by
      apply Nat.div_lt_of_lt_mul
      rw [← Nat.pow_add, Nat.add_sub_cancel' (Nat.le_of_not_lt kept)]
      exact Digits.lt_pow_count c
    have nearest := divNearest_le tie c (10 ^ k)
    have more : 10 ^ (Digits.count c - k) < 10 ^ (Digits.count c - k + 1) :=
      Nat.pow_lt_pow_right (by decide) (Nat.lt_succ_self _)
    exact Nat.lt_of_le_of_lt (Nat.le_trans nearest quotient) more

/-- Something is left as long as a digit is kept. -/
theorem dropDigits_pos (pos : 0 < c) (kept : k < Digits.count c) : 0 < dropDigits tie c k := by
  unfold dropDigits
  rw [if_neg (Nat.not_lt.2 (Nat.le_of_lt kept))]
  refine Nat.lt_of_lt_of_le (Nat.div_pos ?_ (Nat.pow_pos (by decide))) (le_divNearest tie c _)
  exact Nat.le_trans (Nat.pow_le_pow_right (by decide) (Nat.le_sub_one_of_lt kept))
    (Digits.pow_count pos).1

/-! ### Rounding to a precision -/

/-- The number of digits that the precision allows, or fewer. -/
theorem count_roundAbove (pos : 0 < p) (least : Int) (x : Decimal) :
    Digits.count (roundAbove p least x).coefficient ≤ p := by
  unfold roundAbove
  dsimp only
  generalize last : max x.exponent (max least (x.exponent + Digits.count x.coefficient - p)) = e
  have kept := count_dropDigits .toEven x.coefficient (e - x.exponent).toNat
  split
  · refine Digits.count_le pos ?_
    apply Nat.div_lt_of_lt_mul
    rw [Nat.mul_comm, ← Nat.pow_succ]
    have all := Digits.lt_pow_count (dropDigits .toEven x.coefficient (e - x.exponent).toNat)
    refine Nat.lt_of_lt_of_le all (Nat.pow_le_pow_right (by decide) ?_)
    omega
  · next fits => exact Nat.le_of_not_lt fits

/-- Only what lies below the least place is rounded to zero. -/
theorem exponent_roundAbove (pos : 0 < p) (nonzero : ¬ x.IsZero)
    (zero : (roundAbove p least x).IsZero) : (roundAbove p least x).exponent = least := by
  have some_ : 0 < x.coefficient := Nat.pos_of_ne_zero nonzero
  unfold roundAbove IsZero at *
  dsimp only at *
  generalize last : max x.exponent (max least (x.exponent + Digits.count x.coefficient - p)) = e
    at *
  split
  · next long =>
    rw [if_pos long] at zero
    have short := Digits.count_le Nat.one_pos (Nat.lt_of_div_eq_zero (by decide) zero)
    omega
  · next fits =>
    rw [if_neg fits] at zero
    by_contra other
    have other : e ≠ least := other
    have digits := Digits.one_le_count x.coefficient
    have kept : (e - x.exponent).toNat < Digits.count x.coefficient := by omega
    exact Nat.ne_of_gt (dropDigits_pos some_ kept) zero

/-- A number in the exponent range, with at most `p` digits. -/
structure IsWithin (p : Nat) (x : Decimal) : Prop where
  order : x.order ≤ maxOrder
  digits : Digits.count x.coefficient ≤ p

theorem IsWithin.mono {q : Nat} (h : x.IsWithin p) (le : p ≤ q) : x.IsWithin q :=
  ⟨h.order, Nat.le_trans h.digits le⟩

theorem isWithin_zero (pos : 0 < p) (negative : Bool) {e : Int} (range : e ≤ maxOrder) :
    IsWithin p ⟨negative, 0, e⟩ := by
  refine ⟨?_, pos⟩
  change e + 1 - 1 ≤ maxOrder
  omega

theorem minExponent_le (p : Nat) : minExponent p ≤ maxOrder := by
  unfold minExponent minOrder maxOrder
  omega

theorem isWithin_of_round (pos : 0 < p) (rounded : x.round p = .ok y) : y.IsWithin p := by
  unfold round at rounded
  split at rounded
  · next zero =>
    obtain rfl := Except.ok.inj rounded
    obtain ⟨negative, c, e⟩ := x
    obtain rfl : c = 0 := zero
    exact isWithin_zero pos negative (Int.min_le_left _ _)
  · next nonzero =>
    dsimp only at rounded
    split at rounded
    · cases rounded
    · next inside =>
      obtain rfl := Except.ok.inj rounded
      refine ⟨?_, count_roundAbove pos _ x⟩
      by_contra above
      have zero := Decidable.not_not.1 fun nonzero => inside ⟨nonzero, Int.not_le.1 above⟩
      have last := exponent_roundAbove pos nonzero zero
      have bound := minExponent_le p
      rw [Decimal.order, show (roundAbove p (minExponent p) x).coefficient = 0 from zero, last]
        at above
      exact above (by change minExponent p + 1 - 1 ≤ _; omega)

/-! ### Rounding to a place -/

/-- `x` with at most `places` digits behind the point, a half going away from zero. -/
def rounded (places : Int) (x : Decimal) : Decimal :=
  if x.exponent < -places then
    ⟨x.negative, dropDigits .awayFromZero x.coefficient (-places - x.exponent).toNat, -places⟩
  else x

theorem dropDigits_zero (tie : Tie) (k : Nat) : dropDigits tie 0 k = 0 := by
  have divisor : 0 < Digits.tenPow k := Nat.pow_pos (by decide)
  unfold dropDigits
  split
  · rfl
  · simp [divNearest, divisor]

/-- With room for all digits, zeros can follow a number. -/
theorem quantize_of_le {e : Int} (range : x.order ≤ maxOrder) (fine : e ≤ x.exponent)
    (high : e ≤ maxOrder) (low : minExponent p ≤ e) (room : x.order + 1 - e ≤ p) :
    ∃ y, x.quantize p tie e = .ok y := by
  have order : x.order = x.exponent + Digits.count x.coefficient - 1 := rfl
  unfold quantize
  rw [if_neg (by omega)]
  split
  · exact ⟨_, rfl⟩
  · next nonzero =>
    rw [if_neg (by omega)]
    have digits := Digits.count_mul_tenPow (Nat.pos_of_ne_zero nonzero) (x.exponent - e).toNat
    have kept : Decimal.order
        ⟨x.negative, x.coefficient * Digits.tenPow (x.exponent - e).toNat, e⟩ = x.order := by
      rw [order, Decimal.order, digits]
      dsimp only
      omega
    dsimp only
    rw [digits, kept, if_neg (by omega)]
    exact ⟨_, rfl⟩

/-- With room for all digits, a number can be rounded unless this takes it out of the exponent
range. -/
theorem quantize_of_lt {e : Int} (range : x.order ≤ maxOrder) (coarse : x.exponent < e)
    (high : e ≤ maxOrder) (low : minExponent p ≤ e) (pos : 0 < p) (room : x.order + 2 - e ≤ p)
    (y : Decimal)
    (rounded : y = ⟨x.negative, dropDigits tie x.coefficient (e - x.exponent).toNat, e⟩) :
    x.quantize p tie e = if maxOrder < y.order then .error .invalidOperation else .ok y := by
  have order : x.order = x.exponent + Digits.count x.coefficient - 1 := rfl
  subst rounded
  unfold quantize
  rw [if_neg (by omega)]
  split
  · next zero =>
    rw [show x.coefficient = 0 from zero, dropDigits_zero,
      if_neg (Int.not_lt.2 (isWithin_zero pos x.negative high).order)]
  · have digits := count_dropDigits tie x.coefficient (e - x.exponent).toNat
    rw [if_neg (by omega)]
    dsimp only
    rw [if_neg (Int.not_le.2 coarse)]
    have fits : ¬ p < Digits.count (dropDigits tie x.coefficient (e - x.exponent).toNat) := by omega
    simp only [fits, false_or]

/-- Where there is room for all digits, a number can be written up to a place behind the point, but
for one that is rounded out of the exponent range. -/
theorem quantize_rounded {places : Int} (range : x.order ≤ maxOrder) (least : -maxOrder ≤ places)
    (pos : 0 < p) (room : x.order + places + 2 ≤ p) (low : minExponent p ≤ -places) :
    SucceedsIff ((x.rounded places).order ≤ maxOrder) (· = .invalidOperation)
      (x.quantize p .awayFromZero (max (-places) (min 0 x.exponent))) := by
  have limit : maxOrder = 999999 := rfl
  by_cases coarse : x.exponent < -places
  · rw [show max (-places) (min 0 x.exponent) = -places by omega,
      quantize_of_lt range coarse (by omega) low pos (by omega) (x.rounded places) (if_pos coarse)]
    by_cases above : maxOrder < (x.rounded places).order
    · exact .inr ⟨Int.not_le.2 above, _, if_pos above, rfl⟩
    · exact .inl ⟨Int.not_lt.1 above, _, if_neg above⟩
  · rw [rounded, if_neg coarse]
    exact .inl ⟨range, quantize_of_le range (by omega) (by omega) (by omega) (by omega)⟩

/-- Rounding carries into one new digit at most. -/
theorem order_rounded_le (x : Decimal) (places : Int) :
    (x.rounded places).order ≤ max (x.order + 1) (-places) := by
  have order : x.order = x.exponent + Digits.count x.coefficient - 1 := rfl
  unfold rounded
  split
  · have kept := count_dropDigits .awayFromZero x.coefficient (-places - x.exponent).toNat
    rw [Decimal.order]
    dsimp only
    omega
  · omega

/-- Only a number with more digits than the exponent range can be rounded out of it. -/
theorem IsWithin.order_rounded {places : Int} (h : x.IsWithin 1000000) (nonneg : 0 ≤ places) :
    (x.rounded places).order ≤ maxOrder := by
  have digits := h.digits
  unfold rounded
  split
  · next coarse =>
    have kept := count_dropDigits .awayFromZero x.coefficient (-places - x.exponent).toNat
    rw [Decimal.order, show maxOrder = 999999 from rfl]
    dsimp only
    omega
  · exact h.order

/-! ### Arithmetic -/

theorem isWithin_mul (pos : 0 < p) {z : Decimal} (h : mul p x y = .ok z) : z.IsWithin p :=
  isWithin_of_round pos h

theorem isWithin_neg (pos : 0 < p) {z : Decimal} (h : neg p x = .ok z) : z.IsWithin p :=
  isWithin_of_round pos h

theorem isWithin_add (pos : 0 < p) {z : Decimal} (h : add p x y = .ok z) : z.IsWithin p := by
  unfold add at h
  split at h
  · exact isWithin_of_round pos h
  · exact isWithin_of_round pos h

theorem isWithin_div (pos : 0 < p) {z : Decimal} (h : div p x y = .ok z) : z.IsWithin p := by
  unfold div at h
  dsimp only at h
  split at h
  · cases h
  · split at h
    · exact isWithin_of_round pos h
    · split at h
      · exact isWithin_of_round pos h
      · exact isWithin_of_round pos h

theorem isWithin_paddedOne (negative : Bool) {places : Nat} (fits : places < p) :
    (paddedOne negative places).IsWithin p := by
  have digits : Digits.count (paddedOne negative places).coefficient = 1 + places := by
    have counted := Digits.count_mul_tenPow Nat.one_pos places
    rwa [Nat.one_mul] at counted
  refine ⟨?_, by omega⟩
  rw [Decimal.order, digits]
  change -(places : Int) + (1 + places : Nat) - 1 ≤ 999999
  omega

theorem isWithin_powInt (pos : 0 < p) {negative : Bool} {n : Int} {z : Decimal}
    (h : powInt p negative x n = .ok z) : z.IsWithin p := by
  have rest (guarded : Nat) (base : Decimal) (h : (if n.natAbs.log2 < 64 then
        powNat guarded base n.natAbs.log2 n.natAbs >>= fun y => round p { y with negative }
      else
        powFrom guarded (n.natAbs.log2 + 1) n.natAbs base one >>= fun y =>
          round p { y with negative }) = .ok z) : z.IsWithin p := by
    split at h
    · obtain ⟨y, -, h⟩ := bind_eq_ok h
      exact isWithin_of_round pos h
    · obtain ⟨y, -, h⟩ := bind_eq_ok h
      exact isWithin_of_round pos h
  unfold powInt at h
  dsimp only at h
  split at h
  · obtain ⟨reciprocal, -, h⟩ := bind_eq_ok h
    exact rest _ reciprocal h
  · exact rest _ x.abs h

theorem isWithin_pow (pos : 0 < p) {z : Decimal} (h : pow p x y = .ok z) : z.IsWithin p := by
  unfold pow at h
  dsimp only at h
  split at h
  · cases h
  · split at h
    · obtain rfl := Except.ok.inj h
      exact isWithin_paddedOne false pos
    · split at h
      · obtain rfl := Except.ok.inj h
        refine isWithin_paddedOne _ ?_
        repeat' split
        all_goals omega
      · split at h
        · next result out =>
          unfold powOutOfRange? at out
          split at out
          · cases out
          · split at out
            · obtain rfl := Option.some.inj out
              cases h
            · obtain rfl := Option.some.inj out
              obtain rfl := Except.ok.inj h
              exact isWithin_zero pos _ (minExponent_le p)
        · split at h
          · exact isWithin_powInt pos h
          · exact isWithin_of_round pos h

end Decimal
end CalcSheet
