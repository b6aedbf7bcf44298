import CalcSheet.Proofs.Decimal.Places
import CalcSheet.Proofs.Display.Shown
import CalcSheet.Proofs.Text.Numerals

/-!
# Decimal numerals

A number is displayed by the shortest numeral of the number that it is rounded to. Each number has
one such numeral at most, so it is the same for all numbers that are rounded alike.
-/
namespace CalcSheet
open Decimal

namespace Digits
variable {ds es : List Nat} {d : Nat}

theorem toNat_concat (ds : List Nat) (d : Nat) : toNat 10 (ds ++ [d]) = 10 * toNat 10 ds + d := by
  simp [toNat]

theorem toNat_append_zeros (ds : List Nat) (k : Nat) :
    toNat 10 (ds ++ List.replicate k 0) = toNat 10 ds * 10 ^ k := by
  rw [toNat_append, toNat_replicate_zero, List.length_replicate]
  rfl

/-- Of as many digits there are no two ways to write a number. -/
theorem eq_of_toNat_eq (lt : ∀ d ∈ ds, d < 10) (lt' : ∀ d ∈ es, d < 10)
    (long : ds.length = es.length) (same : toNat 10 ds = toNat 10 es) : ds = es := by
  rw [toNat_eq_ofDigits, toNat_eq_ofDigits] at same
  refine List.reverse_injective (Nat.ofDigits_inj_of_len_eq (by decide) (by simpa using long)
    ?_ ?_ same)
  · exact fun d mem => lt d (List.mem_reverse.1 mem)
  · exact fun d mem => lt' d (List.mem_reverse.1 mem)

/-- The last digits of a number are its remainder, and the others the quotient. -/
theorem toNat_append_inj {ds' es' : List Nat} (lt : ∀ d ∈ es, d < 10) (lt' : ∀ d ∈ es', d < 10)
    (long : es.length = es'.length) (same : toNat 10 (ds ++ es) = toNat 10 (ds' ++ es')) :
    toNat 10 ds = toNat 10 ds' ∧ toNat 10 es = toNat 10 es' := by
  have power : 0 < 10 ^ es'.length := Nat.pow_pos (by decide)
  have parts (w : Nat) {f : Nat} (small : f < 10 ^ es'.length) :
      (w * 10 ^ es'.length + f) / 10 ^ es'.length = w ∧
        (w * 10 ^ es'.length + f) % 10 ^ es'.length = f :=
    (Nat.div_mod_unique power).2 ⟨by ring, small⟩
  obtain ⟨quotient, remainder⟩ := parts (toNat 10 ds) (long ▸ toNat_lt lt)
  obtain ⟨quotient', remainder'⟩ := parts (toNat 10 ds') (toNat_lt lt')
  rw [toNat_append, toNat_append, long, Nat.pow_eq] at same
  rw [same] at quotient remainder
  exact ⟨quotient.symm.trans quotient', remainder.symm.trans remainder'⟩

theorem exists_eq_append_zeros (ds : List Nat) :
    ∃ es k, ds = es ++ List.replicate k 0 ∧ es.getLast? ≠ some 0 := by
  induction ds using List.reverseRecOn with
  | nil => exact ⟨[], 0, rfl, nofun⟩
  | append_singleton ds d ih =>
    by_cases zero : d = 0
    · obtain ⟨es, k, rfl, last⟩ := ih
      refine ⟨es, k + 1, ?_, last⟩
      rw [zero, List.append_assoc, List.replicate_succ']
    · exact ⟨ds ++ [d], 0, by simp, by simpa using zero⟩

end Digits

/-- A numeral in base ten without exponent, of which no digit can be left out. It has digits before
the point, and a point just if there are digits behind it. Zero has no sign. -/
structure DecimalNumeral where
  negative : Bool
  whole : List Nat
  fraction : List Nat
  isDigit : ∀ d ∈ whole ++ fraction, d < 10
  nonempty : whole ≠ []
  leading : whole.head? = some 0 → whole = [0]
  trailing : fraction.getLast? ≠ some 0
  unsigned : whole ++ fraction = [0] → negative = false

namespace DecimalNumeral

/-- The numeral of zero. -/
def zero : DecimalNumeral where
  negative := false
  whole := [0]
  fraction := []
  isDigit := by decide
  nonempty := by decide
  leading := by decide
  trailing := by decide
  unsigned := by decide

def sign (negative : Bool) : Text := if negative then ['-'] else []

def text (n : DecimalNumeral) : Text :=
  sign n.negative ++ n.whole.map Digits.char
    ++ if n.fraction = [] then [] else '.' :: n.fraction.map Digits.char

/-- The number that the numeral denotes. -/
def number (n : DecimalNumeral) : Decimal :=
  { Decimal.ofDigits n.whole n.fraction with negative := n.negative }

variable {m n : DecimalNumeral}

/-! ### Numerals of the same number -/

theorem fraction_length_le (same : m.number.toRat = n.number.toRat) :
    m.fraction.length ≤ n.fraction.length := by
  by_contra longer
  obtain ⟨ds, d, fraction⟩ := (List.eq_nil_or_concat' m.fraction).resolve_left fun none => by
    simp [none] at longer
  have written : m.number.toRat = n.number.signedCoefficient * 10 ^ n.number.exponent := same
  have more : m.number.exponent + (1 : ℕ) ≤ n.number.exponent := by
    simp only [number, Decimal.ofDigits]
    omega
  obtain ⟨a, zeros⟩ := exists_coefficient_eq written more
  have digits : m.number.coefficient = 10 * Digits.toNat 10 (m.whole ++ ds) + d := by
    rw [← Digits.toNat_concat, List.append_assoc, ← fraction]
    rfl
  have small : d < 10 := m.isDigit d (by simp [fraction])
  have last := m.trailing
  rw [fraction, List.getLast?_concat] at last
  exact last (congrArg some (by omega))

theorem whole_eq (n : DecimalNumeral) :
    n.whole = if Digits.toNat 10 n.whole = 0 then [0]
      else Digits.ofNat 10 (Digits.toNat 10 n.whole) := by
  by_cases zero : n.whole.head? = some 0
  · rw [n.leading zero]
    rfl
  · have digits := Digits.ofNat_toNat (by decide)
      (fun d mem => n.isDigit d (List.mem_append_left _ mem)) zero
    split
    · next none =>
      rw [none] at digits
      exact absurd digits.symm n.nonempty
    · exact digits.symm

theorem eq_of_number_eq_zero (zero : n.number.toRat = 0) : n = DecimalNumeral.zero := by
  have none : Digits.toNat 10 (n.whole ++ n.fraction) = 0 := toRat_eq_zero.1 zero
  have fraction : n.fraction = [] := by
    rcases List.eq_nil_or_concat' n.fraction with empty | ⟨ds, d, fraction⟩
    · exact empty
    · have last := n.trailing
      rw [fraction, ← List.append_assoc, Digits.toNat_concat] at none
      rw [fraction, List.getLast?_concat] at last
      exact absurd (congrArg some (by omega)) last
  have whole := n.whole_eq
  rw [fraction, List.append_nil] at none
  rw [none] at whole
  have positive := n.unsigned (by rw [whole, fraction]; rfl)
  cases n
  simp_all [DecimalNumeral.zero]

/-- A number has one numeral. -/
theorem eq_of_toRat_eq (same : m.number.toRat = n.number.toRat) : m = n := by
  have places : m.fraction.length = n.fraction.length :=
    le_antisymm (fraction_length_le same) (fraction_length_le same.symm)
  have exponent : m.number.exponent = n.number.exponent := by simp [number, ofDigits, places]
  have signed : m.number.signedCoefficient = n.number.signedCoefficient := by
    have power : (10 : ℚ) ^ n.number.exponent ≠ 0 := zpow_ne_zero _ (by norm_num)
    unfold toRat at same
    rw [exponent] at same
    exact_mod_cast mul_right_cancel₀ power same
  by_cases zero : n.number.toRat = 0
  · rw [eq_of_number_eq_zero zero, eq_of_number_eq_zero (same.trans zero)]
  have nonzero : n.number.coefficient ≠ 0 := fun none => zero (toRat_eq_zero.2 none)
  have negative : m.negative = n.negative := by
    change (if m.negative then -(m.number.coefficient : ℤ) else m.number.coefficient)
      = if n.negative then -(n.number.coefficient : ℤ) else n.number.coefficient at signed
    cases hm : m.negative <;> cases hn : n.negative <;> simp_all
  have coefficient : m.number.coefficient = n.number.coefficient := by
    unfold signedCoefficient at signed
    split at signed <;> split at signed <;> omega
  obtain ⟨whole, fraction⟩ := Digits.toNat_append_inj
    (fun d mem => m.isDigit d (List.mem_append_right _ mem))
    (fun d mem => n.isDigit d (List.mem_append_right _ mem)) places coefficient
  have same_whole : m.whole = n.whole := by rw [m.whole_eq, n.whole_eq, whole]
  have same_fraction : m.fraction = n.fraction := Digits.eq_of_toNat_eq
    (fun d mem => m.isDigit d (List.mem_append_right _ mem))
    (fun d mem => n.isDigit d (List.mem_append_right _ mem)) places fraction
  cases m
  cases n
  simp_all

end DecimalNumeral

/-! ### The numeral that is displayed -/

namespace Digits
variable {ds : List Nat} {d k : Nat}

theorem char_ne_point (lt : d < 10) : char d ≠ '.' := by
  interval_cases d <;> decide

theorem char_eq_zero_iff (lt : d < 10) : char d = '0' ↔ d = 0 := by
  interval_cases d <;> decide

theorem not_mem_map_char (lt : ∀ d ∈ ds, d < 10) : '.' ∉ ds.map char := by
  intro mem
  obtain ⟨d, inside, point⟩ := List.mem_map.1 mem
  exact char_ne_point (lt d inside) point

/-- Digits with zeros before them, so that at least one stands before the point. -/
def paddedTo (k : Nat) (ds : List Nat) : List Nat := List.replicate (k + 1 - ds.length) 0 ++ ds

theorem length_paddedTo (k : Nat) (ds : List Nat) :
    (paddedTo k ds).length = max (k + 1) ds.length := by
  simp only [paddedTo, List.length_append, List.length_replicate]
  omega

theorem toNat_paddedTo (k : Nat) (ds : List Nat) : toNat 10 (paddedTo k ds) = toNat 10 ds := by
  rw [paddedTo, toNat_append, toNat_replicate_zero, Nat.zero_mul, Nat.zero_add]

/-- The digits before a point that has `k` digits behind it. -/
def before (k : Nat) (ds : List Nat) : List Nat :=
  (paddedTo k ds).take ((paddedTo k ds).length - k)

/-- The `k` digits behind a point. -/
def behind (k : Nat) (ds : List Nat) : List Nat :=
  (paddedTo k ds).drop ((paddedTo k ds).length - k)

theorem before_append_behind (k : Nat) (ds : List Nat) :
    before k ds ++ behind k ds = paddedTo k ds :=
  List.take_append_drop _ _

theorem length_behind (k : Nat) (ds : List Nat) : (behind k ds).length = k := by
  have length := length_paddedTo k ds
  rw [behind, List.length_drop]
  omega

theorem before_ne_nil (k : Nat) (ds : List Nat) : before k ds ≠ [] := by
  have length := length_paddedTo k ds
  refine List.ne_nil_of_length_pos ?_
  rw [before, List.length_take]
  omega

theorem lt_of_mem_paddedTo (lt : ∀ d ∈ ds, d < 10) (mem : d ∈ paddedTo k ds) : d < 10 := by
  rcases List.mem_append.1 mem with zero | inside
  · rw [List.eq_of_mem_replicate zero]
    decide
  · exact lt d inside

/-- A zero that stands in front of the point stands there alone. -/
theorem before_eq_singleton (head : ds.head? ≠ some 0) (zero : (before k ds).head? = some 0) :
    before k ds = [0] := by
  have length := length_paddedTo k ds
  unfold before at *
  by_cases short : ds.length ≤ k
  · obtain ⟨j, zeros⟩ : ∃ j, k + 1 - ds.length = j + 1 := ⟨k - ds.length, by omega⟩
    rw [show (paddedTo k ds).length - k = 1 by omega, paddedTo, zeros]
    rfl
  · have unpadded : paddedTo k ds = ds := by
      rw [paddedTo, show k + 1 - ds.length = 0 by omega]
      rfl
    rw [unpadded, List.head?_take, if_neg (by omega)] at zero
    exact absurd zero head

end Digits

theorem Decimal.withPoint_map_char {ds : List Nat} {k : Nat} (nonzero : k ≠ 0) :
    withPoint (ds.map Digits.char) k
      = (Digits.before k ds).map Digits.char ++ '.' :: (Digits.behind k ds).map Digits.char := by
  have padded : List.replicate (k + 1 - (ds.map Digits.char).length) '0' ++ ds.map Digits.char
      = (Digits.paddedTo k ds).map Digits.char := by
    simp [Digits.paddedTo, Digits.char]
  unfold withPoint
  rw [if_neg nonzero]
  dsimp only
  rw [padded, List.length_map, ← List.map_take, ← List.map_drop]
  rfl

namespace Numeral

theorem trimFraction_of_not_mem {t : Text} (point : '.' ∉ t) : trimFraction t = t := by
  simp [trimFraction, point]

theorem trimFraction_append {w f : Text} (point : '.' ∉ w) (digits : '.' ∉ f)
    (last : f.getLast? ≠ some '0') (k : Nat) :
    trimFraction (w ++ '.' :: (f ++ List.replicate k '0'))
      = w ++ if f = [] then [] else '.' :: f := by
  have contains : (w ++ '.' :: (f ++ List.replicate k '0')).contains '.' = true := by simp
  have turned : (w ++ '.' :: (f ++ List.replicate k '0')).reverse.dropWhile (· = '0')
      = (f.reverse ++ '.' :: w.reverse).dropWhile (· = '0') := by
    have zeros : ∀ c ∈ List.replicate k '0', decide (c = '0') = true := by simp
    rw [List.reverse_append, List.reverse_cons, List.reverse_append, List.reverse_replicate,
      List.append_assoc, List.append_assoc, List.dropWhile_append_of_pos zeros]
    simp
  rw [trimFraction, if_pos contains, turned]
  rcases List.eq_nil_or_concat' f with rfl | ⟨f, c, rfl⟩
  · have kept : w.reverse.dropWhile (· = '.') = w.reverse := by
      cases turned : w.reverse with
      | nil => rfl
      | cons c t =>
        have inside : c ∈ w := List.mem_reverse.1 (turned ▸ List.mem_cons_self)
        have other : c ≠ '.' := fun same => point (same ▸ inside)
        simp [other]
    simp [kept]
  · have zero : c ≠ '0' := by simpa using last
    have other : c ≠ '.' := by
      rintro rfl
      simp at digits
    simp [zero, other]

end Numeral

namespace DecimalNumeral
open Numeral

variable {whole fraction : List Nat} {y : Decimal}

theorem not_mem_sign (negative : Bool) : '.' ∉ sign negative := by
  cases negative <;> decide

/-- The zeros at the end of a fraction are left out, and no other digits. -/
theorem trimFraction_digits {ds : List Nat} (negative : Bool)
    (isDigit : ∀ d ∈ whole ++ ds, d < 10) (trailing : ds.getLast? ≠ some 0) (k : Nat) :
    trimFraction (sign negative ++ whole.map Digits.char
        ++ '.' :: (ds ++ List.replicate k 0).map Digits.char)
      = sign negative ++ whole.map Digits.char
        ++ if ds = [] then [] else '.' :: ds.map Digits.char := by
  have point : '.' ∉ sign negative ++ whole.map Digits.char := by
    rw [List.mem_append, not_or]
    exact ⟨not_mem_sign negative, Digits.not_mem_map_char fun d mem =>
      isDigit d (List.mem_append_left _ mem)⟩
  have digits : '.' ∉ ds.map Digits.char :=
    Digits.not_mem_map_char fun d mem => isDigit d (List.mem_append_right _ mem)
  have last : (ds.map Digits.char).getLast? ≠ some '0' := by
    rw [List.getLast?_map]
    intro ends
    obtain ⟨d, last, zero⟩ := Option.map_eq_some_iff.1 ends
    have lt := isDigit d (List.mem_append_right _ (List.mem_of_getLast? last))
    rw [(Digits.char_eq_zero_iff lt).1 zero] at last
    exact trailing last
  have padded : (ds ++ List.replicate k 0).map Digits.char
      = ds.map Digits.char ++ List.replicate k '0' := by
    simp [Digits.char]
  rw [padded, trimFraction_append point digits last]
  simp

/-- Zeros at the end of a fraction do not count. -/
theorem toRat_append_zeros (negative : Bool) (ds : List Nat) (k : Nat) :
    toRat { Decimal.ofDigits whole (ds ++ List.replicate k 0) with negative }
      = toRat { Decimal.ofDigits whole ds with negative } := by
  have coefficient : Digits.toNat 10 (whole ++ (ds ++ List.replicate k 0))
      = Digits.toNat 10 (whole ++ ds) * 10 ^ k := by
    rw [← List.append_assoc, Digits.toNat_append_zeros]
  have exponent : (10 : ℚ) ^ (-(ds.length : ℤ))
      = 10 ^ k * 10 ^ (-((ds ++ List.replicate k 0).length : ℤ)) := by
    rw [← zpow_natCast, ← zpow_add₀ (by norm_num)]
    simp
  have magnitude : (Digits.toNat 10 (whole ++ (ds ++ List.replicate k 0)) : ℚ)
        * 10 ^ (-((ds ++ List.replicate k 0).length : ℤ))
      = (Digits.toNat 10 (whole ++ ds) : ℚ) * 10 ^ (-(ds.length : ℤ)) := by
    rw [coefficient, exponent]
    push_cast
    ring
  rw [toRat_eq, toRat_eq]
  exact congrArg (_ * ·) magnitude

/-- Digits before a point and behind it, of which only zeros at the end can be left out. -/
theorem exists_text_eq_of_point (negative : Bool) (isDigit : ∀ d ∈ whole ++ fraction, d < 10)
    (nonempty : whole ≠ []) (leading : whole.head? = some 0 → whole = [0])
    (nonzero : Digits.toNat 10 (whole ++ fraction) ≠ 0) :
    ∃ n : DecimalNumeral,
      trimFraction (sign negative ++ whole.map Digits.char ++ '.' :: fraction.map Digits.char)
        = n.text ∧
      n.number.toRat = toRat { Decimal.ofDigits whole fraction with negative } ∧
      n.fraction.length ≤ fraction.length := by
  obtain ⟨ds, k, rfl, trailing⟩ := Digits.exists_eq_append_zeros fraction
  rw [← List.append_assoc] at isDigit nonzero
  have few : ∀ d ∈ whole ++ ds, d < 10 := fun d mem => isDigit d (List.mem_append_left _ mem)
  have unsigned : whole ++ ds = [0] → negative = false := fun zero => by
    rw [zero, Digits.toNat_append_zeros] at nonzero
    exact absurd (Nat.zero_mul _) nonzero
  refine ⟨⟨negative, whole, ds, few, nonempty, leading, trailing, unsigned⟩, ?_, ?_, by simp⟩
  · exact trimFraction_digits negative few trailing k
  · exact (toRat_append_zeros negative ds k).symm

/-- Digits that no point follows. -/
theorem exists_text_eq_of_whole (negative : Bool) (isDigit : ∀ d ∈ whole, d < 10)
    (nonempty : whole ≠ []) (leading : whole.head? ≠ some 0) :
    ∃ n : DecimalNumeral,
      trimFraction (sign negative ++ whole.map Digits.char) = n.text ∧
      n.number.toRat = toRat { Decimal.ofDigits whole [] with negative } ∧ n.fraction = [] := by
  refine ⟨⟨negative, whole, [], by simpa using isDigit, nonempty, fun zero => absurd zero leading,
    nofun, fun zero => ?_⟩, ?_, rfl, rfl⟩
  · rw [List.append_nil] at zero
    rw [zero] at leading
    exact absurd rfl leading
  · rw [trimFraction_of_not_mem]
    · simp [text]
    · rw [List.mem_append, not_or]
      exact ⟨not_mem_sign negative, Digits.not_mem_map_char isDigit⟩

theorem plain_eq (nonzero : ¬ y.IsZero) :
    y.plain = sign y.negative ++
      if y.exponent < 0 then
        withPoint ((Digits.ofNat 10 y.coefficient).map Digits.char) (-y.exponent).toNat
      else
        (Digits.ofNat 10 y.coefficient ++ List.replicate y.exponent.toNat 0).map Digits.char := by
  have digits : Digits.text 10 y.coefficient = (Digits.ofNat 10 y.coefficient).map Digits.char :=
    if_neg nonzero
  have signed (body : Text) :
      (if y.negative then '-' :: body else body) = sign y.negative ++ body := by
    cases y.negative <;> rfl
  have zeros (k : Nat) : (Digits.ofNat 10 y.coefficient ++ List.replicate k 0).map Digits.char
      = (Digits.ofNat 10 y.coefficient).map Digits.char ++ List.replicate k '0' := by
    simp [Digits.char]
  rw [Decimal.plain, digits, signed, if_neg nonzero, zeros]
  rcases lt_trichotomy y.exponent 0 with below | whole | above
  · rw [if_pos below.le, if_pos below]
  · simp [whole, withPoint]
  · rw [if_neg (not_le.2 above), if_neg above.le.not_gt]

/-- The numeral that is left of the digits of a number. -/
theorem exists_text_eq (nonzero : ¬ y.IsZero) :
    ∃ n : DecimalNumeral, trimFraction y.plain = n.text ∧ n.number.toRat = y.toRat ∧
      n.fraction.length ≤ (-y.exponent).toNat := by
  have isDigit : ∀ d ∈ Digits.ofNat 10 y.coefficient, d < 10 := fun d mem =>
    Digits.lt_of_mem_ofNat (by decide) mem
  have nonempty : Digits.ofNat 10 y.coefficient ≠ [] := Digits.ofNat_ne_nil nonzero
  have leading := Digits.head?_ofNat_ne_zero 10 y.coefficient
  have denotes := Digits.toNat_ofNat 10 y.coefficient
  rw [plain_eq nonzero]
  generalize Digits.ofNat 10 y.coefficient = ds at *
  split
  · next below =>
    obtain ⟨k, exponent⟩ : ∃ k : Nat, y.exponent = -k := ⟨(-y.exponent).toNat, by omega⟩
    have pos : k ≠ 0 := by omega
    rw [exponent, Int.neg_neg, Int.toNat_natCast, withPoint_map_char pos, ← List.append_assoc]
    have parts := Digits.before_append_behind k ds
    have value : Digits.toNat 10 (Digits.before k ds ++ Digits.behind k ds) = y.coefficient := by
      rw [parts, Digits.toNat_paddedTo, denotes]
    obtain ⟨n, text, same, short⟩ := exists_text_eq_of_point y.negative
      (fun d mem => Digits.lt_of_mem_paddedTo isDigit (parts ▸ mem)) (Digits.before_ne_nil k ds)
      (Digits.before_eq_singleton leading) (value ▸ nonzero)
    refine ⟨n, text, same.trans ?_, short.trans (Digits.length_behind k ds).le⟩
    rw [toRat_eq, toRat_eq]
    simp only [ofDigits, Digits.length_behind, value, exponent]
    rfl
  · next above =>
    obtain ⟨k, exponent⟩ : ∃ k : Nat, y.exponent = k := ⟨y.exponent.toNat, by omega⟩
    have isDigit' : ∀ d ∈ ds ++ List.replicate k 0, d < 10 := by
      simp only [List.mem_append, List.mem_replicate]
      rintro d (inside | ⟨-, rfl⟩)
      · exact isDigit d inside
      · decide
    obtain ⟨n, text, same, none⟩ := exists_text_eq_of_whole y.negative isDigit' (by simp [nonempty])
      (by rwa [List.head?_append_of_ne_nil _ nonempty])
    rw [exponent, Int.toNat_natCast]
    refine ⟨n, text, same.trans ?_, by simp [none]⟩
    rw [toRat_eq, toRat_eq]
    simp [ofDigits, Digits.toNat_append_zeros, denotes, exponent, Decimal.sign]

end DecimalNumeral

namespace Numeral

variable {x : Decimal} {places : Int} {t : Text}

theorem exists_of_roundTo {p : Nat} {r : Scalar}
    (rounded : roundTo p (.finite x) (-places) = .ok r) :
    ∃ y : Decimal, r = .finite y ∧ RoundsTo places x.toRat y.toRat ∧ y.negative = x.negative ∧
      y.exponent = max (-places) (min 0 x.exponent) := by
  unfold roundTo at rounded
  dsimp only at rounded
  split at rounded
  · exact nomatch rounded
  · obtain ⟨y, written, rfl⟩ := map_eq_ok (mapError_eq_ok rounded)
    have whole := eq_of_quantize written
    exact ⟨y, rfl, roundsTo_of_quantize written, by rw [whole], by rw [whole]⟩

/-- Every numeral that is displayed is the one of the number that is rounded to the last place. -/
theorem exists_of_decimal (range : x.order ≤ maxOrder) (least : -maxOrder ≤ places)
    (most : places ≤ maxOrder) (shown : decimal (.finite x) places = .ok t) :
    ∃ n : DecimalNumeral, t = n.text ∧ n.fraction.length ≤ places.toNat ∧
      RoundsTo places x.toRat n.number.toRat := by
  obtain ⟨p, precision, precise, -⟩ := precisionOf_eq range most
  have pos : 0 < p := Nat.lt_of_lt_of_le (by decide) precise
  unfold decimal at shown
  rw [precision] at shown
  change (lastPlace p places).mapError _ >>= _ = _ at shown
  rw [lastPlace_eq pos least most] at shown
  change roundTo p (.finite x) (-places) >>= _ = _ at shown
  obtain ⟨rounded, done, same⟩ := bind_eq_ok shown
  obtain rfl := Except.ok.inj same
  obtain ⟨y, rfl, rounds, -, exponent⟩ := exists_of_roundTo done
  simp only [Scalar.textBy]
  split
  · next zero =>
    refine ⟨.zero, rfl, Nat.zero_le _, ?_⟩
    rw [toRat_eq_zero.2 zero] at rounds
    exact (toRat_eq_zero.2 rfl : DecimalNumeral.zero.number.toRat = 0).symm ▸ rounds
  · next nonzero =>
    obtain ⟨n, text, value, short⟩ := DecimalNumeral.exists_text_eq nonzero
    exact ⟨n, text, short.trans (by omega), value ▸ rounds⟩

theorem exists_decimal (range : x.order ≤ maxOrder) (least : -maxOrder ≤ places)
    (most : places ≤ maxOrder) (inside : (x.rounded places).order ≤ maxOrder) :
    ∃ n : DecimalNumeral, decimal (.finite x) places = .ok n.text ∧
      n.fraction.length ≤ places.toNat ∧ RoundsTo places x.toRat n.number.toRat := by
  obtain ⟨t, shown⟩ := (decimal_succeedsIff range least most).exists_ok_iff.2 inside
  obtain ⟨n, rfl, numeral⟩ := exists_of_decimal range least most shown
  exact ⟨n, shown, numeral⟩

theorem order_rounded_lt (range : x.order < maxOrder) (least : -maxOrder ≤ places) :
    (x.rounded places).order ≤ maxOrder := by
  have carried := order_rounded_le x places
  omega

/-- A number below the largest order is displayed by the numeral of the number that it is rounded
to. This does not depend on how the number is written, and is displayed by the same numeral. -/
theorem decimal_rounds (range : x.order < maxOrder) (least : -maxOrder ≤ places)
    (most : places ≤ maxOrder) :
    ∃ n : DecimalNumeral, decimal (.finite x) places = .ok n.text ∧
      n.fraction.length ≤ places.toNat ∧ RoundsTo places x.toRat n.number.toRat ∧
      (∀ y : Decimal, y.order < maxOrder → y.toRat = x.toRat →
        decimal (.finite y) places = .ok n.text) ∧
      ∀ y : Decimal, y.order ≤ maxOrder → y.toRat = n.number.toRat →
        decimal (.finite y) places = .ok n.text := by
  obtain ⟨n, shown, short, rounds⟩ :=
    exists_decimal range.le least most (order_rounded_lt range least)
  have alike {y : Decimal} (range : y.order ≤ maxOrder)
      (inside : (y.rounded places).order ≤ maxOrder)
      (rounds' : RoundsTo places y.toRat n.number.toRat) :
      decimal (.finite y) places = .ok n.text := by
    obtain ⟨m, shown, -, other⟩ := exists_decimal range least most inside
    rw [shown, DecimalNumeral.eq_of_toRat_eq (other.unique rounds')]
  refine ⟨n, shown, short, rounds, fun y range same => ?_, fun y range same => ?_⟩
  · exact alike range.le (order_rounded_lt range least) (same ▸ rounds)
  · have self : RoundsTo places y.toRat y.toRat := same ▸ rounds.result
    exact alike range (order_rounded_of_roundsTo self range least) (same ▸ self)

theorem decimal_rounds_carried :
    (⟨true, 9995, -3⟩ : Decimal).order < maxOrder ∧ ∃ n : DecimalNumeral,
      decimal (.finite ⟨true, 9995, -3⟩) 2 = .ok n.text ∧ n.text = ['-', '1', '0'] ∧
      RoundsTo 2 (toRat ⟨true, 9995, -3⟩) n.number.toRat ∧
      decimal (.finite ⟨true, 999500, -5⟩) 2 = .ok n.text := by
  have range : (⟨true, 9995, -3⟩ : Decimal).order < maxOrder := by decide
  obtain ⟨n, shown, -, rounds, alike, -⟩ :=
    @decimal_rounds ⟨true, 9995, -3⟩ 2 range (by decide) (by decide)
  have numeral : decimal (.finite ⟨true, 9995, -3⟩) 2 = .ok ['-', '1', '0'] := by decide +kernel
  have zeros : toRat ⟨true, 999500, -5⟩ = toRat ⟨true, 9995, -3⟩ := by
    norm_num [toRat, signedCoefficient]
  exact ⟨range, n, shown, Except.ok.inj (shown.symm.trans numeral), rounds,
    alike _ (by decide) zeros⟩

end Numeral
end CalcSheet
