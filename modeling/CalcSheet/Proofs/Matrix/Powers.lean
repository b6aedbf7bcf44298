import CalcSheet.Proofs.Decimal.Quotients
import CalcSheet.Proofs.Evaluation.Differences
import CalcSheet.Proofs.Matrix.Products
import Mathlib.Algebra.BigOperators.Fin
import Mathlib.Algebra.Order.BigOperators.Ring.Finset
import Mathlib.Data.Matrix.Mul

/-!
# Powers of integer matrices

As long as the integers fit the precision, products of matrices of integers are exact, and square
and multiply calculates the same power as multiplying one factor after the other. The bound is one
on `(k * M) ^ e` for a matrix of `k` rows with entries up to `M`: it holds of every product on the
way, and of every sum of some of its terms.
-/
namespace CalcSheet

/-! ### Integers in any representation -/

namespace Decimal
variable {p : Nat} {x y : Decimal}

theorem isRepresentable_intCast (moderate : IsModerate p) {n : ℤ} (fits : |n| < 10 ^ p) :
    IsRepresentable p n := by
  have least : minExponent p ≤ 0 := by
    have pos := moderate.1
    unfold minExponent minOrder
    omega
  refine ⟨⟨n, 0, by simp, fits, least⟩, ?_⟩
  calc |(n : ℚ)| < 10 ^ (p : ℤ) := by exact_mod_cast fits
    _ ≤ 10 ^ (maxOrder + 1) := zpow_le_zpow_right₀ (by norm_num) (by linarith [moderate.2])

/-- A product that can be written with the digits of the precision is exact. -/
theorem mul_of_isRepresentable (pos : 0 < p) (fits : IsRepresentable p (x.toRat * y.toRat)) :
    ∃ z, mul p x y = .ok z ∧ z.toRat = x.toRat * y.toRat := by
  rw [← toRat_mul_exact x y] at fits ⊢
  exact round_of_isRepresentable pos fits

end Decimal

namespace Quantity
variable {q x y : Quantity} {m n : ℤ}

/-- A number without a unit that is an integer, however it is written. -/
structure HasValue (q : Quantity) (n : ℤ) : Prop where
  plain : q.unit = none
  value : q.value.toRat? = some (n : ℚ)

theorem HasValue.exists_ofDecimal (h : q.HasValue n) :
    ∃ d : Decimal, q = .ofDecimal d ∧ d.toRat = n := by
  obtain ⟨value, unit⟩ := q
  obtain rfl : unit = none := h.plain
  obtain ⟨d, rfl, same⟩ := Scalar.exists_finite_of_toRat? h.value
  exact ⟨d, rfl, same⟩

theorem hasValue_ofDecimal {d : Decimal} (same : d.toRat = n) : (ofDecimal d).HasValue n :=
  ⟨rfl, congrArg some same⟩

theorem HasValue.add (hx : x.HasValue m) (hy : y.HasValue n)
    (fits : |m + n| < 10 ^ workingPrecision) : ∃ z, x.add y = .ok z ∧ z.HasValue (m + n) := by
  obtain ⟨c, rfl, hc⟩ := hx.exists_ofDecimal
  obtain ⟨d, rfl, hd⟩ := hy.exists_ofDecimal
  have value : c.toRat + d.toRat = (m + n : ℤ) := by rw [hc, hd, Int.cast_add]
  obtain ⟨z, done, same⟩ := Decimal.add_of_isRepresentable (by decide)
    (value ▸ Decimal.isRepresentable_intCast isModerate_workingPrecision fits)
  exact ⟨.ofDecimal z, add_ofDecimal done, hasValue_ofDecimal (same.trans value)⟩

theorem HasValue.mul (hx : x.HasValue m) (hy : y.HasValue n)
    (fits : |m * n| < 10 ^ workingPrecision) : ∃ z, x.mul y = .ok z ∧ z.HasValue (m * n) := by
  obtain ⟨c, rfl, hc⟩ := hx.exists_ofDecimal
  obtain ⟨d, rfl, hd⟩ := hy.exists_ofDecimal
  have value : c.toRat * d.toRat = (m * n : ℤ) := by rw [hc, hd, Int.cast_mul]
  obtain ⟨z, done, same⟩ := Decimal.mul_of_isRepresentable (by decide)
    (value ▸ Decimal.isRepresentable_intCast isModerate_workingPrecision fits)
  exact ⟨.ofDecimal z, mul_ofDecimal done, hasValue_ofDecimal (same.trans value)⟩

end Quantity

namespace QuantityMatrix
open Finset

variable {k : ℕ} {m a b : QuantityMatrix} {A B : Matrix (Fin k) (Fin k) ℤ} {P Q : ℤ}

/-! ### Sums of products -/

/-- Sums of products of integers are exact where each product and each sum on the way fits. -/
theorem exists_partialSum {x y : ℕ → Quantity} {u v : ℕ → ℤ} {n : ℕ}
    (hx : ∀ t ≤ n, (x t).HasValue (u t)) (hy : ∀ t ≤ n, (y t).HasValue (v t))
    (products : ∀ t ≤ n, |u t * v t| < 10 ^ workingPrecision)
    (sums : ∀ t ≤ n, |∑ s ∈ range (t + 1), u s * v s| < 10 ^ workingPrecision) :
    ∃ q, partialSum Quantity.mul Quantity.add x y n = .ok q
      ∧ q.HasValue (∑ t ∈ range (n + 1), u t * v t) := by
  induction n with
  | zero =>
    obtain ⟨q, done, value⟩ := (hx 0 le_rfl).mul (hy 0 le_rfl) (products 0 le_rfl)
    exact ⟨q, done, by rwa [zero_add, sum_range_one]⟩
  | succ n ih =>
    obtain ⟨total, summed, htotal⟩ := ih (fun t le => hx t (Nat.le_succ_of_le le))
      (fun t le => hy t (Nat.le_succ_of_le le)) (fun t le => products t (Nat.le_succ_of_le le))
      fun t le => sums t (Nat.le_succ_of_le le)
    obtain ⟨product, multiplied, hproduct⟩ :=
      (hx (n + 1) le_rfl).mul (hy (n + 1) le_rfl) (products (n + 1) le_rfl)
    have fits := sums (n + 1) le_rfl
    rw [sum_range_succ] at fits
    obtain ⟨q, added, value⟩ := htotal.add hproduct fits
    refine ⟨q, ?_, by rwa [sum_range_succ]⟩
    rw [partialSum, summed]
    change (Quantity.mul (x (n + 1)) (y (n + 1)) >>= _) = _
    rw [multiplied]
    exact added

/-- If `k` times each factor keeps to its bound, the product does so for both. -/
theorem mul_abs_mul_abs_le {x y : ℤ} (hx : k * |x| ≤ P) (hy : k * |y| ≤ Q) :
    (k * |x|) * (k * |y|) ≤ P * Q :=
  mul_le_mul hx hy (by positivity) (le_trans (by positivity) hx)

theorem mul_abs_mul_le {x y : ℤ} (pos : 0 < k) (hx : k * |x| ≤ P) (hy : k * |y| ≤ Q) :
    k * |x * y| ≤ P * Q := by
  have one : (1 : ℤ) ≤ k := by exact_mod_cast pos
  calc k * |x * y| = (k * |x|) * |y| := by rw [abs_mul, mul_assoc]
    _ ≤ (k * |x|) * (k * |y|) := by
        gcongr
        exact le_mul_of_one_le_left (abs_nonneg y) one
    _ ≤ P * Q := mul_abs_mul_abs_le hx hy

/-- A sum of at most `k` such products keeps to the same bound. -/
theorem mul_abs_sum_le {u v : ℕ → ℤ} {n : ℕ} (pos : 0 < k) (le : n ≤ k)
    (hu : ∀ t < n, k * |u t| ≤ P) (hv : ∀ t < n, k * |v t| ≤ Q) (nonneg : 0 ≤ P * Q) :
    k * |∑ t ∈ range n, u t * v t| ≤ P * Q := by
  have each (t : ℕ) (mem : t ∈ range n) : (k * |u t|) * (k * |v t|) ≤ P * Q :=
    mul_abs_mul_abs_le (hu t (mem_range.1 mem)) (hv t (mem_range.1 mem))
  refine le_of_mul_le_mul_left ?_ (Int.natCast_pos.2 pos)
  calc (k : ℤ) * (k * |∑ t ∈ range n, u t * v t|)
      ≤ k * (k * ∑ t ∈ range n, |u t * v t|) := by gcongr; exact abs_sum_le_sum_abs _ _
    _ = ∑ t ∈ range n, (k * |u t|) * (k * |v t|) := by
        rw [mul_sum, mul_sum]
        exact sum_congr rfl fun t _ => by rw [abs_mul]; ring
    _ ≤ ∑ t ∈ range n, P * Q := sum_le_sum each
    _ = n * (P * Q) := by rw [sum_const, card_range, nsmul_eq_mul]
    _ ≤ k * (P * Q) := by gcongr

/-! ### Matrices of integers -/

/-- The matrix has the integers as its cells, however they are written. -/
structure Represents (m : QuantityMatrix) (A : Matrix (Fin k) (Fin k) ℤ) : Prop where
  rows : m.rows = k
  cols : m.cols = k
  cells : ∀ i j : Fin k, (m.cell i j).HasValue (A i j)

/-- The integers of a row or a column by their numbers, and zero beyond them. -/
def along (f : Fin k → ℤ) (t : ℕ) : ℤ := if h : t < k then f ⟨t, h⟩ else 0

theorem along_of_lt {f : Fin k → ℤ} {t : ℕ} (h : t < k) : along f t = f ⟨t, h⟩ := dif_pos h

theorem mul_apply_eq (A B : Matrix (Fin k) (Fin k) ℤ) (i j : Fin k) :
    (A * B) i j = ∑ t ∈ range k, along (A i) t * along (B · j) t := by
  rw [Matrix.mul_apply, sum_range]
  exact sum_congr rfl fun t _ => by rw [along_of_lt t.2, along_of_lt t.2]

/-- `k` times each integer of the matrix keeps to the bound. -/
def IsBounded (A : Matrix (Fin k) (Fin k) ℤ) (P : ℤ) : Prop := ∀ i j, k * |A i j| ≤ P

namespace IsBounded

theorem along_row (h : IsBounded A P) (i : Fin k) (t : ℕ) (inside : t < k) :
    k * |along (A i) t| ≤ P := by
  rw [along_of_lt inside]
  exact h i _

theorem along_col (h : IsBounded A P) (j : Fin k) (t : ℕ) (inside : t < k) :
    k * |along (A · j) t| ≤ P := by
  rw [along_of_lt inside]
  exact h _ j

theorem nonneg (h : IsBounded A P) (i j : Fin k) : 0 ≤ P := le_trans (by positivity) (h i j)

theorem mul_nonneg (hA : IsBounded A P) (hB : IsBounded B Q) (i j : Fin k) : 0 ≤ P * Q :=
  Int.mul_nonneg (hA.nonneg i j) (hB.nonneg i j)

theorem mul (hA : IsBounded A P) (hB : IsBounded B Q) : IsBounded (A * B) (P * Q) := by
  intro i j
  rw [mul_apply_eq]
  exact mul_abs_sum_le i.pos le_rfl (hA.along_row i) (hB.along_col j) (hA.mul_nonneg hB i j)

theorem pow {M : ℤ} (largest : ∀ i j, |A i j| ≤ M) {n : ℕ} (pos : 1 ≤ n) :
    IsBounded (A ^ n) ((k * M) ^ n) := by
  have one : IsBounded A (k * M) := fun i j =>
    mul_le_mul_of_nonneg_left (largest i j) (Int.natCast_nonneg k)
  induction n, pos using Nat.le_induction with
  | base => rwa [pow_one, pow_one]
  | succ n _ ih =>
    rw [pow_succ, pow_succ]
    exact ih.mul one

/-- Where the bound fits the precision, every calculation along a row and a column is exact. -/
theorem exists_dot (hA : IsBounded A P) (hB : IsBounded B Q) (fits : P * Q < 10 ^ workingPrecision)
    (ha : Represents a A) (hb : Represents b B) (i j : Fin k) :
    ∃ q, dot Quantity.mul Quantity.add a b i j = .ok q ∧ q.HasValue ((A * B) i j) := by
  have pos : 0 < k := i.pos
  have nonneg := hA.mul_nonneg hB i j
  have small (z : ℤ) (bound : k * |z| ≤ P * Q) : |z| < 10 ^ workingPrecision := by
    have one : (1 : ℤ) ≤ k := by exact_mod_cast pos
    exact (le_mul_of_one_le_left (abs_nonneg z) one).trans_lt (bound.trans_lt fits)
  have width : a.cols.toNat - 1 + 1 = k := by
    rw [ha.cols, Int.toNat_natCast]
    omega
  have row (t : ℕ) (inside : t < k) : (a.cell i t).HasValue (along (A i) t) := by
    rw [along_of_lt inside]
    exact ha.cells i ⟨t, inside⟩
  have col (t : ℕ) (inside : t < k) : (b.cell t j).HasValue (along (B · j) t) := by
    rw [along_of_lt inside]
    exact hb.cells ⟨t, inside⟩ j
  have rowBound := hA.along_row i
  have colBound := hB.along_col j
  obtain ⟨q, done, value⟩ := exists_partialSum (n := a.cols.toNat - 1)
    (fun t le => row t (by omega)) (fun t le => col t (by omega))
    (fun t le => small _ (mul_abs_mul_le pos (rowBound t (by omega)) (colBound t (by omega))))
    fun t le => small _ (mul_abs_sum_le pos (by omega) (fun s _ => rowBound s (by omega))
      (fun s _ => colBound s (by omega)) nonneg)
  rw [width, ← mul_apply_eq] at value
  exact ⟨q, done, value⟩

end IsBounded

/-- The product of matrices of integers is exact where the bound fits the precision. -/
theorem Represents.exists_product (pos : 0 < k) (ha : Represents a A) (hb : Represents b B)
    (hA : IsBounded A P) (hB : IsBounded B Q) (fits : P * Q < 10 ^ workingPrecision) :
    ∃ r, product Quantity.mul Quantity.add a b = .ok r ∧ Represents r (A * B) := by
  have filled {m : QuantityMatrix} {C : Matrix (Fin k) (Fin k) ℤ} (h : Represents m C) :
      m.IsFilled :=
    ⟨h.rows ▸ Int.natCast_pos.2 pos, h.cols ▸ Int.natCast_pos.2 pos, fun _ _ => trivial⟩
  have outcome : Fills a.rows b.cols (dot Quantity.mul Quantity.add a b)
      (product Quantity.mul Quantity.add a b) :=
    fills_product (filled ha) (filled hb) (ha.cols.trans hb.rows.symm)
  have height : a.rows.toNat = k := by rw [ha.rows, Int.toNat_natCast]
  have width : b.cols.toNat = k := by rw [hb.cols, Int.toNat_natCast]
  cases made : product Quantity.mul Quantity.add a b with
  | error fault =>
    obtain ⟨i, row, j, col, failed⟩ := outcome.error made
    obtain ⟨q, done, -⟩ := hA.exists_dot hB fits ha hb ⟨i, height ▸ row⟩ ⟨j, width ▸ col⟩
    exact nomatch failed.symm.trans done
  | ok r =>
    obtain ⟨rows, cols, cells⟩ := outcome.ok made
    refine ⟨r, rfl, rows.trans ha.rows, cols.trans hb.cols, fun i j => ?_⟩
    obtain ⟨q, done, value⟩ := hA.exists_dot hB fits ha hb i j
    have cell := cells i (height.symm ▸ i.2) j (width.symm ▸ j.2)
    exact Except.ok.inj (done.symm.trans cell) ▸ value

/-! ### Square and multiply -/

/-- The product of so many more factors, one after the other from the left. -/
def repeated (mul add : Quantity → Quantity → Except Fault Quantity) (m : QuantityMatrix) :
    ℕ → Except Fault QuantityMatrix
  | 0 => .ok m
  | n + 1 => do
      let r ← repeated mul add m n
      product mul add r m

/-- A matrix of integers with entries up to `M`, and an exponent for which its powers fit the
precision. -/
structure IsSmall (A : Matrix (Fin k) (Fin k) ℤ) (M : ℤ) (e : ℕ) : Prop where
  pos : 0 < k
  largest : ∀ i j, |A i j| ≤ M
  fits : (k * M) ^ e < 10 ^ workingPrecision

variable {M : ℤ} {e p q n : ℕ}

/-- Smaller powers fit as well: those of zero are zero, and all others grow. -/
theorem IsSmall.pow_lt (small : IsSmall A M e) (one : 1 ≤ n) (le : n ≤ e) :
    (k * M) ^ n < 10 ^ workingPrecision := by
  have entry : 0 ≤ M := (abs_nonneg _).trans (small.largest ⟨0, small.pos⟩ ⟨0, small.pos⟩)
  have nonneg : 0 ≤ k * M := Int.mul_nonneg (Int.natCast_nonneg k) entry
  rcases nonneg.eq_or_lt with zero | positive
  · rw [← zero, zero_pow (by omega)]
    decide
  · exact (pow_le_pow_right₀ positive le).trans_lt small.fits

theorem IsSmall.exists_product (small : IsSmall A M e) (one : 1 ≤ p) (one' : 1 ≤ q)
    (le : p + q ≤ e) (ha : Represents a (A ^ p)) (hb : Represents b (A ^ q)) :
    ∃ r, product Quantity.mul Quantity.add a b = .ok r ∧ Represents r (A ^ (p + q)) := by
  have fits : (k * M) ^ p * (k * M) ^ q < 10 ^ workingPrecision := by
    rw [← pow_add]
    exact small.pow_lt (by omega) le
  rw [pow_add]
  exact ha.exists_product small.pos hb (.pow small.largest one) (.pow small.largest one') fits

/-- The result so far is the `q`-th power, and there is none for `q = 0`. -/
def Accumulates (A : Matrix (Fin k) (Fin k) ℤ) (q : ℕ) : Option QuantityMatrix → Prop
  | none => q = 0
  | some r => 1 ≤ q ∧ Represents r (A ^ q)

theorem Accumulates.getD {result : Option QuantityMatrix} (h : Accumulates A q result) (one : 1 ≤ q)
    (base : QuantityMatrix) : Represents (result.getD base) (A ^ q) := by
  cases result with
  | none =>
    obtain rfl : q = 0 := h
    omega
  | some r => exact h.2

/-- What the last bit of `n` makes of the result so far: it is multiplied by the base if the bit is
set. -/
def advance (mul add : Quantity → Quantity → Except Fault Quantity) (n : ℕ) (base : QuantityMatrix)
    (result : Option QuantityMatrix) : Except Fault (Option QuantityMatrix) :=
  if n % 2 = 0 then pure result
  else match result with
    | none => pure (some base)
    | some r => some <$> product mul add r base

theorem powFrom_succ (mul add : Quantity → Quantity → Except Fault Quantity) (bits n : ℕ)
    (base : QuantityMatrix) (result : Option QuantityMatrix) :
    powFrom mul add (bits + 1) n base result = (do
      let next ← advance mul add n base result
      if n / 2 = 0 then pure (next.getD base)
      else do
        let square ← product mul add base base
        powFrom mul add bits (n / 2) square next) := by
  conv_lhs => unfold powFrom
  unfold advance
  dsimp only
  split
  · rfl
  · cases result <;> rfl

theorem IsSmall.exists_advance (small : IsSmall A M e) {base : QuantityMatrix}
    {result : Option QuantityMatrix} (one : 1 ≤ p) (hbase : Represents base (A ^ p))
    (hresult : Accumulates A q result) (le : q + p * (n % 2) ≤ e) :
    ∃ next, advance Quantity.mul Quantity.add n base result = .ok next
      ∧ Accumulates A (q + p * (n % 2)) next := by
  unfold advance
  rcases Nat.mod_two_eq_zero_or_one n with even | odd
  · exact ⟨result, if_pos even, by rwa [even, Nat.mul_zero, Nat.add_zero]⟩
  · rw [odd, Nat.mul_one] at le ⊢
    rw [if_neg one_ne_zero]
    cases result with
    | none =>
      obtain rfl : q = 0 := hresult
      exact ⟨some base, rfl, by rwa [Nat.zero_add], by rwa [Nat.zero_add]⟩
    | some r =>
      obtain ⟨one', hr⟩ := hresult
      obtain ⟨next, made, hnext⟩ := small.exists_product one' one le hr hbase
      refine ⟨some next, ?_, by omega, hnext⟩
      dsimp only
      rw [made]
      rfl

/-- The invariant of square and multiply: with `A ^ p` as the base and `A ^ q` as the result so far,
the bits of `n` that are left make it `A ^ (q + p * n)`. -/
theorem IsSmall.exists_powFrom (small : IsSmall A M e) {bits : ℕ} {base : QuantityMatrix}
    {result : Option QuantityMatrix} (one : 1 ≤ p) (hbase : Represents base (A ^ p))
    (hresult : Accumulates A q result) (reached : 1 ≤ q + p * n) (le : q + p * n ≤ e)
    (left : n < 2 ^ bits) :
    ∃ r, powFrom Quantity.mul Quantity.add bits n base result = .ok r
      ∧ Represents r (A ^ (q + p * n)) := by
  induction bits generalizing n p q base result with
  | zero =>
    obtain rfl : n = 0 := by omega
    exact ⟨_, rfl, hresult.getD reached base⟩
  | succ bits ih =>
    have total : q + p * n = q + p * (n % 2) + (p + p) * (n / 2) := by
      calc q + p * n = q + p * (2 * (n / 2) + n % 2) := by rw [Nat.div_add_mod]
        _ = q + p * (n % 2) + (p + p) * (n / 2) := by ring
    rw [total] at le reached
    obtain ⟨next, advanced, hnext⟩ := small.exists_advance (n := n) one hbase hresult (by omega)
    rw [powFrom_succ, advanced, total]
    change ∃ r, (if n / 2 = 0 then _ else _) = _ ∧ _
    by_cases last : n / 2 = 0
    · rw [last, Nat.mul_zero, Nat.add_zero] at reached ⊢
      exact ⟨_, if_pos rfl, hnext.getD reached base⟩
    · have squares : p + p ≤ (p + p) * (n / 2) := Nat.le_mul_of_pos_right _ (Nat.pos_of_ne_zero last)
      obtain ⟨square, made, hsquare⟩ := small.exists_product one one (by omega) hbase hbase
      rw [if_neg last, made]
      exact ih (by omega) hsquare hnext reached le (by omega)

/-- The power of a small matrix, whatever the representation of its integers and of the exponent. -/
theorem IsSmall.exists_power (small : IsSmall A M e) (one : 1 ≤ e) (hm : Represents m A)
    {exponent : Scalar} (count : exponent.toRat? = some (e : ℚ)) :
    ∃ r, power Quantity.mul Quantity.add m exponent = .ok r ∧ Represents r (A ^ e) := by
  have square : m.rows = m.cols := hm.rows.trans hm.cols.symm
  have found : power Quantity.mul Quantity.add m exponent
      = powFrom Quantity.mul Quantity.add (e.log2 + 1) e m none :=
    power_of_toRat? square (Int.ofNat_le.2 one) (by exact_mod_cast count)
  have first : Represents m (A ^ 1) := by rwa [pow_one]
  have none : Accumulates A 0 none := rfl
  have whole := small.exists_powFrom (n := e) le_rfl first none (by omega) (by omega)
    Nat.lt_log2_self
  rwa [Nat.zero_add, Nat.one_mul, ← found] at whole

/-- Multiplying one factor after the other gives the power, too. -/
theorem IsSmall.exists_repeated (small : IsSmall A M e) (hm : Represents m A) (le : n + 1 ≤ e) :
    ∃ r, repeated Quantity.mul Quantity.add m n = .ok r ∧ Represents r (A ^ (n + 1)) := by
  induction n with
  | zero => exact ⟨m, rfl, by rwa [Nat.zero_add, pow_one]⟩
  | succ n ih =>
    obtain ⟨r, done, hr⟩ := ih (Nat.le_of_succ_le le)
    obtain ⟨next, made, hnext⟩ :=
      small.exists_product (Nat.succ_pos n) le_rfl le hr (by rwa [pow_one])
    refine ⟨next, ?_, hnext⟩
    rw [repeated, done]
    exact made

/-- For a matrix of integers whose powers fit the precision, square and multiply has a result. It is
the matrix power, cell by cell the same as the product of so many factors from the left. -/
theorem power_eq_repeated (small : IsSmall A M e) (one : 1 ≤ e) (hm : Represents m A)
    {exponent : Scalar} (count : exponent.toRat? = some (e : ℚ)) :
    ∃ r r', power Quantity.mul Quantity.add m exponent = .ok r
      ∧ repeated Quantity.mul Quantity.add m (e - 1) = .ok r'
      ∧ Represents r (A ^ e)
      ∧ r'.rows = r.rows ∧ r'.cols = r.cols
      ∧ ∀ i < k, ∀ j < k, (r'.cell i j).unit = (r.cell i j).unit
        ∧ (r'.cell i j).value.toRat? = (r.cell i j).value.toRat? := by
  obtain ⟨r, done, hr⟩ := small.exists_power one hm count
  obtain ⟨r', done', hr'⟩ := small.exists_repeated hm (Nat.sub_add_cancel one).le
  rw [Nat.sub_add_cancel one] at hr'
  refine ⟨r, r', done, done', hr, hr'.rows.trans hr.rows.symm, hr'.cols.trans hr.cols.symm,
    fun i row j col => ?_⟩
  have cell := hr.cells ⟨i, row⟩ ⟨j, col⟩
  have cell' := hr'.cells ⟨i, row⟩ ⟨j, col⟩
  exact ⟨cell'.plain.trans cell.plain.symm, cell'.value.trans cell.value.symm⟩

/-- The tenth power of a matrix that makes Fibonacci numbers, some of its ones written otherwise. -/
theorem power_eq_repeated_fibonacci :
    let m : QuantityMatrix := ⟨2, 2, [.ofDecimal ⟨false, 10, -1⟩, .ofDecimal .one,
      .ofDecimal .one, .ofDecimal ⟨true, 0, 3⟩], rfl⟩
    let A : Matrix (Fin 2) (Fin 2) ℤ := ![![1, 1], ![1, 0]]
    IsSmall A 1 10 ∧ Represents m A
      ∧ ∃ r r', power Quantity.mul Quantity.add m (.finite ⟨false, 1, 1⟩) = .ok r
        ∧ repeated Quantity.mul Quantity.add m 9 = .ok r'
        ∧ (r.cell 0 1).value.toRat? = some 55 ∧ (r'.cell 0 1).value.toRat? = some 55 := by
  intro m A
  have small : IsSmall A 1 10 := ⟨by decide, by decide, by decide⟩
  have represents : Represents m A := by
    refine ⟨rfl, rfl, fun i j => ⟨?_, Scalar.toInt?_eq_some_iff.1 ?_⟩⟩
    · revert i j
      decide
    · revert i j
      decide
  have count : Scalar.toRat? (.finite ⟨false, 1, 1⟩) = some ((10 : ℕ) : ℚ) :=
    Scalar.toInt?_eq_some_iff.1 (by decide)
  obtain ⟨r, r', done, done', hr, -, -, same⟩ := power_eq_repeated small (by decide) represents count
  have entry : (A ^ 10) 0 1 = 55 := by decide +kernel
  have value := (hr.cells 0 1).value
  rw [entry] at value
  exact ⟨small, represents, r, r', done, done', value,
    ((same 0 (by decide) 1 (by decide)).2).trans value⟩

end QuantityMatrix
end CalcSheet
