import Mathlib.Data.Nat.Digits.Lemmas
import CalcSheet.Text.Reference

/-!
# Numerals read back

A number has one numeral without leading zeros, so reading a numeral and writing the number again
gives it back.
-/
namespace CalcSheet
namespace Digits

theorem toNat_eq_ofDigits (base : Nat) (ds : List Nat) :
    toNat base ds = Nat.ofDigits base ds.reverse := by
  induction ds with
  | nil => rfl
  | cons d ds ih =>
    have step := toNat_append base [d] ds
    have digit : toNat base [d] = d := by simp [toNat]
    simp only [List.singleton_append] at step
    rw [step, digit, ih, List.reverse_cons, Nat.ofDigits_append, List.length_reverse,
      Nat.ofDigits_singleton, Nat.pow_eq]
    ring

theorem toNat_lt {base : Nat} {ds : List Nat} (lt : ∀ d ∈ ds, d < base) :
    toNat base ds < base ^ ds.length := by
  induction ds with
  | nil => exact Nat.one_pos
  | cons d ds ih =>
    obtain ⟨here, later⟩ := List.forall_mem_cons.1 lt
    have step := toNat_append base [d] ds
    rw [List.singleton_append, show toNat base [d] = d by simp [toNat]] at step
    have rest := ih later
    rw [step, List.length_cons, Nat.pow_succ']
    calc d * base ^ ds.length + toNat base ds
      _ < d * base ^ ds.length + base ^ ds.length := Nat.add_lt_add_left rest _
      _ = (d + 1) * base ^ ds.length := (Nat.succ_mul _ _).symm
      _ ≤ base * base ^ ds.length := Nat.mul_le_mul_right _ here

/-- Digits without leading zeros are those of the number that they denote. -/
theorem eq_reverse_digits {base : Nat} {ds : List Nat} (two_le : 2 ≤ base)
    (lt : ∀ d ∈ ds, d < base) (head : ds.head? ≠ some 0) :
    ds = (Nat.digits base (toNat base ds)).reverse := by
  rw [toNat_eq_ofDigits, Nat.digits_ofDigits base two_le, List.reverse_reverse]
  · exact fun d hd => lt d (List.mem_reverse.1 hd)
  · intro nonempty zero
    rw [List.getLast_reverse] at zero
    exact head (List.head?_eq_some_head _ ▸ congrArg some zero)

theorem head?_ofNat_ne_zero (base n : Nat) : (ofNat base n).head? ≠ some 0 := by
  intro zero
  have := List.head?_dropWhile_not (· == 0) (padded base (depth n) n)
  rw [← ofNat, zero] at this
  simp at this

theorem ofNat_toNat {base : Nat} {ds : List Nat} (two_le : 2 ≤ base) (lt : ∀ d ∈ ds, d < base)
    (head : ds.head? ≠ some 0) : ofNat base (toNat base ds) = ds := by
  have written := eq_reverse_digits two_le
    (fun d (hd : d ∈ ofNat base (toNat base ds)) => lt_of_mem_ofNat two_le hd)
    (head?_ofNat_ne_zero base _)
  rw [toNat_ofNat, ← eq_reverse_digits two_le lt head] at written
  exact written

theorem digitValue?_char {d : Nat} (h : d < 10) : Text.digitValue? (char d) = some d := by
  interval_cases d <;> rfl

theorem exists_char_of_isDigit {c : Char} (h : c.isDigit = true) : ∃ d < 10, c = char d := by
  simp only [Char.isDigit, Bool.and_eq_true, decide_eq_true_eq, ge_iff_le, UInt32.le_iff_toNat_le]
    at h
  have low : 48 ≤ c.toNat := h.1
  have high : c.toNat ≤ 57 := h.2
  refine ⟨c.toNat - 48, by omega, ?_⟩
  rw [char, if_pos (by omega), Nat.add_sub_cancel' low, Char.ofNat_toNat]

theorem isDigit_char {d : Nat} (h : d < 10) : (char d).isDigit = true := by
  interval_cases d <;> rfl

theorem isDecimal_of_isDigit {c : Char} (h : c.isDigit = true) : Text.isDecimal c = true := by
  obtain ⟨d, hd, rfl⟩ := exists_char_of_isDigit h
  rw [Text.isDecimal, digitValue?_char hd]
  rfl

theorem naturalOf_map_char {ds : List Nat} (lt : ∀ d ∈ ds, d < 10) :
    Text.naturalOf (ds.map char) = toNat 10 ds := by
  rw [Text.naturalOf, toNat, List.foldl_map]
  suffices ∀ n, ds.foldl (fun n d => 10 * n + (Text.digitValue? (char d)).getD 0) n
      = ds.foldl (fun n d => 10 * n + d) n from this 0
  induction ds with
  | nil => exact fun _ => rfl
  | cons d ds ih =>
    intro n
    simp only [List.foldl_cons, digitValue?_char (lt d List.mem_cons_self), Option.getD_some]
    exact ih (fun e he => lt e (List.mem_cons_of_mem _ he)) _

/-- The numeral of a number is read as the number. -/
theorem naturalOf_text (n : Nat) : Text.naturalOf (text 10 n) = n := by
  unfold text
  split
  · next zero =>
    subst zero
    rfl
  · rw [naturalOf_map_char fun d hd => lt_of_mem_ofNat (by decide) hd, toNat_ofNat]

theorem isDigit_of_mem_text {n : Nat} {c : Char} (h : c ∈ text 10 n) : c.isDigit = true := by
  unfold text at h
  split at h
  · obtain rfl := List.mem_singleton.1 h
    rfl
  · obtain ⟨d, hd, rfl⟩ := List.mem_map.1 h
    exact isDigit_char (lt_of_mem_ofNat (by decide) hd)

/-- What is no digit of a base does not stand in its numerals. -/
theorem not_mem_text {base : Nat} {c : Char} (two_le : 2 ≤ base)
    (other : ∀ d < base, char d ≠ c) (n : Nat) : c ∉ text base n := by
  unfold text
  split
  · exact fun mem => other 0 (by omega) (List.mem_singleton.1 mem).symm
  · intro mem
    obtain ⟨d, digit, same⟩ := List.mem_map.1 mem
    exact other d (lt_of_mem_ofNat two_le digit) same

theorem ofNat_ne_nil {base n : Nat} (h : n ≠ 0) : ofNat base n ≠ [] := by
  intro empty
  have := toNat_ofNat base n
  rw [empty] at this
  exact h this.symm

theorem text_ne_nil (base n : Nat) : text base n ≠ [] := by
  unfold text
  split
  · simp
  · next pos => simpa using ofNat_ne_nil pos

/-- A numeral is as long as its number has digits. -/
theorem length_text_le_iff {n k : Nat} (nonzero : n ≠ 0) :
    (text 10 n).length ≤ k ↔ n < 10 ^ k := by
  have digits : ofNat 10 n = (Nat.digits 10 n).reverse := by
    have lt : ∀ d ∈ ofNat 10 n, d < 10 := fun d hd => lt_of_mem_ofNat (by decide) hd
    have := eq_reverse_digits (by decide) lt (head?_ofNat_ne_zero 10 n)
    rwa [toNat_ofNat] at this
  rw [text, if_neg nonzero, List.length_map, digits, List.length_reverse,
    Nat.digits_length_le_iff (by decide)]

/-- Digits as the numeral of a positive number has them: those of one script, and no zero in
front. -/
structure IsCanonical (digits : Text) : Prop where
  nonempty : digits ≠ []
  isDigit : ∀ c ∈ digits, c.isDigit = true
  head : digits.head? ≠ some '0'

instance (digits : Text) : Decidable (IsCanonical digits) :=
  decidable_of_iff (digits ≠ [] ∧ digits.all Char.isDigit = true ∧ digits.head? ≠ some '0')
    ⟨fun ⟨nonempty, isDigit, head⟩ => ⟨nonempty, List.all_eq_true.1 isDigit, head⟩,
      fun h => ⟨h.nonempty, List.all_eq_true.2 h.isDigit, h.head⟩⟩

theorem text_naturalOf {digits : Text} (h : IsCanonical digits) :
    text 10 (Text.naturalOf digits) = digits := by
  obtain ⟨ds, lt, rfl⟩ : ∃ ds : List Nat, (∀ d ∈ ds, d < 10) ∧ digits = ds.map char := by
    have isDigit := h.isDigit
    clear h
    induction digits with
    | nil => exact ⟨[], by simp, rfl⟩
    | cons c digits ih =>
      obtain ⟨d, hd, rfl⟩ := exists_char_of_isDigit (isDigit c List.mem_cons_self)
      obtain ⟨ds, lt, rfl⟩ := ih fun c hc => isDigit c (List.mem_cons_of_mem _ hc)
      exact ⟨d :: ds, by simpa using ⟨hd, lt⟩, rfl⟩
  have head : ds.head? ≠ some 0 := fun zero => h.head (by simp [zero, char])
  have digits := ofNat_toNat (by decide) lt head
  have pos : toNat 10 ds ≠ 0 := by
    intro zero
    rw [zero] at digits
    exact h.nonempty (by simp [← digits, ofNat, depth, padded])
  rw [naturalOf_map_char lt, text, if_neg pos, digits]

theorem naturalOf_ne_zero {digits : Text} (h : IsCanonical digits) :
    Text.naturalOf digits ≠ 0 := by
  intro zero
  have written := text_naturalOf h
  rw [zero] at written
  exact h.head (written ▸ rfl)

theorem isCanonical_text {n : Nat} (h : n ≠ 0) : IsCanonical (text 10 n) where
  nonempty := text_ne_nil 10 n
  isDigit := fun _ hc => isDigit_of_mem_text hc
  head := by
    rw [text, if_neg h, List.head?_map]
    intro zero
    obtain ⟨d, hd, zero⟩ := Option.map_eq_some_iff.1 zero
    have bound : d < 10 := lt_of_mem_ofNat (by decide) (List.mem_of_mem_head? hd)
    have : d ≠ 0 := fun h => head?_ofNat_ne_zero 10 n (h ▸ hd)
    interval_cases d <;> simp_all [char]

end Digits
end CalcSheet
