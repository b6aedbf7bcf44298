/-!
# Digits of natural numbers

Numerals in any base, written by halving: a block of digits is divided into two blocks of half the
width, so long numerals stay cheap.
-/
namespace CalcSheet.Digits

/-- The `k`-th power of ten. -/
def tenPow (k : Nat) : Nat := Nat.pow 10 k

/-- How many places a block has that can be halved `k` times. -/
def width (k : Nat) : Nat := Nat.pow 2 k

theorem width_succ (k : Nat) : width (k + 1) = width k + width k := Nat.mul_two _

/-- The digits of `n < base ^ width k`, most significant first, with zeros in front: `width k`
places in all. -/
def padded (base : Nat) : Nat → Nat → List Nat
  | 0, n => [n]
  | k + 1, n =>
      if n = 0 then List.replicate (width (k + 1)) 0
      else
        let half := Nat.pow base (width k)
        padded base k (n / half) ++ padded base k (n % half)

/-- A number of halvings with `n < 2 ^ width (depth n)`. -/
def depth (n : Nat) : Nat := (n.log2 + 1).log2 + 1

/-- The digits of `n`, most significant first and without leading zeros; zero has none. -/
def ofNat (base n : Nat) : List Nat := (padded base (depth n) n).dropWhile (· == 0)

/-- The number a digit list denotes. -/
def toNat (base : Nat) (digits : List Nat) : Nat := digits.foldl (fun n d => base * n + d) 0

theorem foldl_eq_add_toNat (base n : Nat) (digits : List Nat) :
    digits.foldl (fun n d => base * n + d) n
      = n * Nat.pow base digits.length + toNat base digits := by
  induction digits generalizing n with
  | nil => simp [toNat]
  | cons d ds ih =>
    simp only [toNat, List.foldl_cons, List.length_cons, Nat.mul_zero, Nat.zero_add]
    rw [ih, ih d]
    simp only [Nat.pow_eq, Nat.pow_succ, Nat.add_mul, Nat.add_assoc]
    congr 1
    rw [Nat.mul_comm base n, Nat.mul_assoc, Nat.mul_comm base]

theorem toNat_append (base : Nat) (ds es : List Nat) :
    toNat base (ds ++ es) = toNat base ds * Nat.pow base es.length + toNat base es := by
  rw [toNat, List.foldl_append, foldl_eq_add_toNat, ← toNat]

theorem length_padded (base k n : Nat) : (padded base k n).length = width k := by
  induction k generalizing n with
  | zero => rfl
  | succ k ih =>
    by_cases h : n = 0
    · simp only [padded, h, ↓reduceIte, List.length_replicate]
    · simp only [padded, h, ↓reduceIte, List.length_append, ih, width_succ]

theorem toNat_replicate_zero (base k : Nat) : toNat base (List.replicate k 0) = 0 := by
  induction k with
  | zero => rfl
  | succ k ih => simpa [toNat, List.replicate_succ] using ih

theorem toNat_padded (base k n : Nat) : toNat base (padded base k n) = n := by
  induction k generalizing n with
  | zero => simp [padded, toNat]
  | succ k ih =>
    by_cases h : n = 0
    · simp only [padded, h, ↓reduceIte, toNat_replicate_zero]
    · simp only [padded, h, ↓reduceIte, toNat_append, ih, length_padded]
      rw [Nat.mul_comm, Nat.div_add_mod]

theorem toNat_dropWhile_zero (base : Nat) (ds : List Nat) :
    toNat base (ds.dropWhile (· == 0)) = toNat base ds := by
  induction ds with
  | nil => rfl
  | cons d ds ih =>
    by_cases h : d = 0
    · simpa [h, toNat] using ih
    · simp [h]

/-- The digits of a number denote it. -/
@[simp] theorem toNat_ofNat (base n : Nat) : toNat base (ofNat base n) = n := by
  rw [ofNat, toNat_dropWhile_zero, toNat_padded]

theorem lt_pow_width_depth (n : Nat) : n < Nat.pow 2 (width (depth n)) := by
  have h : n.log2 + 1 ≤ width (depth n) := Nat.le_of_lt Nat.lt_log2_self
  exact Nat.lt_of_lt_of_le Nat.lt_log2_self (Nat.pow_le_pow_right (by decide) h)

theorem lt_of_mem_padded {base k n d : Nat} (pos : 0 < base) (bound : n < Nat.pow base (width k))
    (h : d ∈ padded base k n) : d < base := by
  induction k generalizing n with
  | zero =>
    simp only [padded, List.mem_singleton] at h
    simpa [h, width] using bound
  | succ k ih =>
    by_cases zero : n = 0
    · simp only [padded, zero, ↓reduceIte, List.mem_replicate] at h
      simpa [h.2] using pos
    · simp only [padded, zero, ↓reduceIte, List.mem_append] at h
      rw [width_succ, Nat.pow_eq, Nat.pow_add] at bound
      rcases h with h | h
      · exact ih (Nat.div_lt_of_lt_mul bound) h
      · exact ih (Nat.mod_lt _ (Nat.pow_pos pos)) h

/-- Every digit of a number is below the base. -/
theorem lt_of_mem_ofNat {base n d : Nat} (two_le : 2 ≤ base) (h : d ∈ ofNat base n) : d < base := by
  have bound : n < Nat.pow base (width (depth n)) :=
    Nat.lt_of_lt_of_le (lt_pow_width_depth n) (Nat.pow_le_pow_left two_le _)
  exact lt_of_mem_padded (by omega) bound (List.dropWhile_sublist _ |>.mem h)

/-- The character of a digit below sixteen; letters are capitals. -/
def char (d : Nat) : Char := if d < 10 then Char.ofNat (48 + d) else Char.ofNat (55 + d)

/-- The numeral of `n`: a single `0` for zero, no leading zeros otherwise. -/
def text (base n : Nat) : List Char :=
  if n = 0 then ['0'] else (ofNat base n).map char

/-- The decimal numeral of an integer. -/
def signed (n : Int) : List Char :=
  if n < 0 then '-' :: text 10 n.natAbs else text 10 n.natAbs

/-- One less than the number of decimal digits of `n`, for `0 < n < 10 ^ width k`. -/
def order : Nat → Nat → Nat
  | 0, _ => 0
  | k + 1, n =>
      let block := tenPow (width k)
      if n < block then order k n else width k + order k (n / block)

/-- How many decimal digits `n` has; zero is written with one. -/
def count (n : Nat) : Nat := order (depth n) n + 1

/-- The most decimal digits of an integer that is read or written as a numeral by itself. -/
def maxLength : Nat := 4300

/-- Whether an integer can be written in decimal. -/
def IsWritable (n : Int) : Prop := count n.natAbs ≤ maxLength

instance (n : Int) : Decidable (IsWritable n) := inferInstanceAs (Decidable (_ ≤ _))

end CalcSheet.Digits
