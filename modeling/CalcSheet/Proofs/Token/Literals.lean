import CalcSheet.Proofs.Decimal.Range
import CalcSheet.Proofs.Evaluation.Assignments
import CalcSheet.Proofs.Text.Numerals

/-!
# The numbers that a line can write

A numeral has no exponent, so a number has about as many digits as its numeral has characters: as
many in base ten and fewer than twice as many in base sixteen.
-/
namespace CalcSheet

/-- A number without a positive exponent, and with at most `n` digits. -/
structure Decimal.IsLiteral (n : Nat) (x : Decimal) : Prop where
  exponent : x.exponent ≤ 0
  coefficient : x.coefficient < 10 ^ n

theorem Decimal.IsLiteral.mono {n k : Nat} {x : Decimal} (h : x.IsLiteral n) (le : n ≤ k) :
    x.IsLiteral k :=
  ⟨h.exponent, Nat.lt_of_lt_of_le h.coefficient (Nat.pow_le_pow_right (by decide) le)⟩

theorem Decimal.IsLiteral.isWithin {n p : Nat} {x : Decimal} (h : x.IsLiteral n) (pos : 0 < p)
    (le : n ≤ p) (moderate : p ≤ 1000000) : x.IsWithin p := by
  have digits : Digits.count x.coefficient ≤ p :=
    Digits.count_le pos (Nat.lt_of_lt_of_le h.coefficient (Nat.pow_le_pow_right (by decide) le))
  have exponent := h.exponent
  refine ⟨?_, digits⟩
  rw [order, show maxOrder = 999999 from rfl]
  omega

theorem Decimal.isLiteral_of_digits {base n : Nat} {ds : List Nat} {e : Int}
    (lt : ∀ d ∈ ds, d < base) (small : base ≤ 100) (fits : ds.length ≤ n) (le : e ≤ 0) :
    IsLiteral (2 * n) ⟨false, Digits.toNat base ds, e⟩ := by
  refine ⟨le, Nat.lt_of_lt_of_le (Digits.toNat_lt lt) ?_⟩
  calc base ^ ds.length
    _ ≤ 100 ^ ds.length := Nat.pow_le_pow_left small _
    _ ≤ 100 ^ n := Nat.pow_le_pow_right (by decide) fits
    _ = 10 ^ (2 * n) := (Nat.pow_mul 10 2 n).symm

namespace Token
open Decimal

variable {names : List KnownName} {begun : Bool} {previous : Option Char} {c : Char}
  {line t rest : Text} {m : Match} {x : Decimal} {fuel position : Nat} {tokens : List Token}

/-! ### Digits -/

theorem digitValue_lt (c : Char) : (Text.digitValue? c).getD 0 < 10 := by
  unfold Text.digitValue?
  split
  · split
    · next digit =>
      have high : c.toNat ≤ 57 := by
        simp only [Char.isDigit, Bool.and_eq_true, decide_eq_true_eq] at digit
        exact digit.2
      simp only [Option.getD_some]
      omega
    · exact Nat.succ_pos _
  · cases found : Text.Ranges.decimalZeros.find? fun z =>
        decide (z ≤ c.toNat) && decide (c.toNat < z + 10) with
    | none => exact Nat.succ_pos _
    | some z =>
      have inside := List.find?_some found
      simp only [Bool.and_eq_true, decide_eq_true_eq] at inside
      simp only [Option.map_some, Option.getD_some]
      omega

theorem hexValue_lt (digit : isHexDigit c = true) : hexValue c < 16 := by
  simp only [isHexDigit, Char.isDigit, Bool.or_eq_true, Bool.and_eq_true, decide_eq_true_eq,
    Char.le_def, UInt32.le_iff_toNat_le] at digit
  simp only [hexValue, Char.isDigit, Bool.and_eq_true, decide_eq_true_eq, Char.le_def,
    UInt32.le_iff_toNat_le, Char.toNat, Char.reduceVal, UInt32.reduceToNat] at digit ⊢
  split
  · omega
  · split
    · omega
    · omega

theorem bitValue_lt (bit : isBit c = true) : hexValue c < 2 := by
  simp only [isBit, Bool.or_eq_true, beq_iff_eq] at bit
  rcases bit with rfl | rfl <;> decide

/-! ### Numerals -/

theorem isLiteral_of_radix? {base : Nat} {isDigit : Char → Bool}
    (values : ∀ c, isDigit c = true → hexValue c < base) (small : base ≤ 100)
    (found : radix? base isDigit t = some m) (number : m.1 = .operand (.number x)) :
    x.IsLiteral (2 * t.length) := by
  unfold radix? at found
  dsimp only at found
  split at found
  · cases found
  · obtain rfl := Option.some.inj found
    obtain rfl := Operand.number.inj (Lexeme.operand.inj number)
    refine isLiteral_of_digits (fun d mem => ?_) small ?_ (Int.le_refl 0)
    · obtain ⟨c, inside, rfl⟩ := List.mem_map.1 mem
      exact values c (List.mem_takeWhile_imp inside)
    · rw [List.length_map]
      exact (List.takeWhile_sublist _).length_le

theorem isLiteral_of_announced? (found : announced? t = some m)
    (number : m.1 = .operand (.number x)) : x.IsLiteral (2 * t.length) := by
  have longer {digits : Text} (h : x.IsLiteral (2 * digits.length)) (a b : Char) :
      x.IsLiteral (2 * (a :: b :: digits).length) :=
    h.mono (by simp only [List.length_cons]; omega)
  unfold announced? at found
  split at found
  · exact longer (isLiteral_of_radix? (fun _ => hexValue_lt) (by decide) found number) _ _
  · exact longer (isLiteral_of_radix? (fun _ => bitValue_lt) (by decide) found number) _ _
  · cases found

theorem length_fraction? {u after : Text} (found : fraction? u = some after) :
    after.length ≤ u.length := by
  unfold fraction? at found
  split at found
  · obtain rfl := Option.some.inj found
    exact Nat.le_succ_of_le (List.takeWhile_sublist _).length_le
  · cases found

theorem isLiteral_of_numeral? (found : numeral? t = some m)
    (number : m.1 = .operand (.number x)) : x.IsLiteral (2 * t.length) := by
  have values {u : Text} : ∀ d ∈ u.map fun c => (Text.digitValue? c).getD 0, d < 10 := by
    intro d mem
    obtain ⟨c, -, rfl⟩ := List.mem_map.1 mem
    exact digitValue_lt c
  have before := (List.takeWhile_sublist Text.isDecimal (l := t)).length_le
  unfold numeral? at found
  dsimp only at found
  split at found
  · next after fraction =>
    split at found
    · cases found
    · obtain rfl := Option.some.inj found
      obtain rfl := Operand.number.inj (Lexeme.operand.inj number)
      refine isLiteral_of_digits (List.forall_mem_append.2 ⟨values, values⟩) (by decide) ?_
        (Int.neg_nonpos_of_nonneg (Int.natCast_nonneg _))
      have behind := length_fraction? fraction
      rw [List.length_drop] at behind
      simp only [List.length_append, List.length_map]
      omega
  · split at found
    · cases found
    · obtain rfl := Option.some.inj found
      obtain rfl := Operand.number.inj (Lexeme.operand.inj number)
      refine isLiteral_of_digits (List.forall_mem_append.2 ⟨values, List.forall_mem_nil _⟩)
        (by decide) ?_ (Int.le_refl 0)
      simpa using before

theorem isLiteral_of_number? (found : number? previous t = some m)
    (number : m.1 = .operand (.number x)) : x.IsLiteral (2 * t.length) := by
  unfold number? at found
  split at found
  · cases found
  · rcases (Option.orElse_eq_some _ _ _).1 found with found | ⟨-, found⟩
    · exact isLiteral_of_announced? found number
    · exact isLiteral_of_numeral? found number

/-! ### Tokens -/

theorem conversion_of_conversion? (found : conversion? begun previous t = .ok (some m)) :
    ∃ u, m.1 = .conversion u := by
  unfold conversion? at found
  split at found
  · dsimp only at found
    split at found
    · cases found
    · obtain ⟨unit?, -, found⟩ := bind_eq_ok found
      obtain ⟨⟨u, n⟩, -, rfl⟩ := Option.map_eq_some_iff.1 (Except.ok.inj found)
      exact ⟨u, rfl⟩
  · cases found

theorem number_of_number? (found : number? previous t = some m) :
    ∃ x, m.1 = .operand (.number x) := by
  have radix {base : Nat} {p : Char → Bool} {digits : Text} (read : radix? base p digits = some m) :
      ∃ x, m.1 = .operand (.number x) := by
    unfold radix? at read
    dsimp only at read
    split at read
    · cases read
    · exact ⟨_, congrArg Prod.fst (Option.some.inj read).symm⟩
  unfold number? at found
  split at found
  · cases found
  · rcases (Option.orElse_eq_some _ _ _).1 found with found | ⟨-, found⟩
    · unfold announced? at found
      split at found
      · exact radix found
      · exact radix found
      · cases found
    · unfold numeral? at found
      dsimp only at found
      split at found
      all_goals
        split at found
        · cases found
        · exact ⟨_, congrArg Prod.fst (Option.some.inj found).symm⟩

theorem unit_of_unit? (found : unit? names previous t = .ok (some m)) : ∃ u, m.1 = .unit u := by
  unfold unit? at found
  split at found
  · cases found
  · obtain ⟨unit?, -, found⟩ := bind_eq_ok found
    obtain ⟨⟨u, n⟩, -, rfl⟩ := Option.map_eq_some_iff.1 (Except.ok.inj found)
    exact ⟨u, rfl⟩

theorem operator?_ne_operand {o : Operand} : operator? c ≠ some (.operand o) := by
  intro found
  unfold operator? at found
  split at found <;> cases found

/-- A token is a number only where a numeral begins. -/
theorem number?_of_next (matched : next names begun previous c rest = .ok m)
    (number : m.1 = .operand (.number x)) : number? previous (c :: rest) = some m := by
  unfold next at matched
  dsimp only at matched
  split at matched
  · next blank =>
    obtain rfl := Except.ok.inj matched
    unfold blank? at blank
    dsimp only at blank
    split at blank
    · cases blank
    · obtain rfl := Option.some.inj blank
      cases number
  · obtain ⟨name?, name, matched⟩ := bind_eq_ok matched
    split at matched
    · obtain rfl := Except.ok.inj matched
      obtain ⟨o, operand, other⟩ := operand_of_knownName? name
      exact absurd (Lexeme.operand.inj (operand.symm.trans number)) (other x)
    · split at matched
      · next found =>
        obtain rfl := Except.ok.inj matched
        rcases (Option.orElse_eq_some _ _ _).1 found with found | ⟨-, found⟩
        · obtain ⟨digits, -, rfl⟩ := Option.map_eq_some_iff.1 found
          cases number
        · exact found
      · obtain ⟨conversion?, conversion, matched⟩ := bind_eq_ok matched
        split at matched
        · obtain rfl := Except.ok.inj matched
          obtain ⟨u, kind⟩ := conversion_of_conversion? conversion
          cases kind.symm.trans number
        · obtain ⟨unit?, unit, matched⟩ := bind_eq_ok matched
          split at matched
          · obtain rfl := Except.ok.inj matched
            obtain ⟨u, kind⟩ := unit_of_unit? unit
            cases kind.symm.trans number
          · obtain rfl := Except.ok.inj matched
            unfold word? at number
            split at number
            · cases number
            · change (operator? c).getD (.text [c]) = _ at number
              cases operator : operator? c with
              | none =>
                rw [operator] at number
                cases number
              | some lexeme =>
                rw [operator] at number
                exact absurd (operator.trans (congrArg some number)) operator?_ne_operand

/-- The numbers of a line have at most twice as many digits as the line has characters. -/
theorem isLiteral_of_scanFrom
    (scanned : scanFrom names fuel begun previous position t = .ok tokens) :
    ∀ token ∈ tokens, token.lexeme = .operand (.number x) → x.IsLiteral (2 * t.length) := by
  induction fuel generalizing begun previous position t tokens with
  | zero =>
    obtain rfl : [] = tokens := Except.ok.inj scanned
    exact List.forall_mem_nil _
  | succ fuel ih =>
    cases t with
    | nil =>
      obtain rfl : [] = tokens := Except.ok.inj scanned
      exact List.forall_mem_nil _
    | cons c rest =>
      rw [scanFrom_cons] at scanned
      obtain ⟨m, matched, scanned⟩ := bind_eq_ok scanned
      obtain ⟨others, scannedRest, rfl⟩ := map_eq_ok scanned
      refine List.forall_mem_cons.2 ⟨fun number =>
        isLiteral_of_number? (number?_of_next matched number) number, fun token mem number => ?_⟩
      refine (ih scannedRest token mem number).mono ?_
      rw [List.length_drop]
      exact Nat.mul_le_mul_left 2 (Nat.sub_le _ _)

theorem isLiteral_of_scan (scanned : scan line names = .ok tokens) :
    ∀ token ∈ tokens, token.lexeme = .operand (.number x) → x.IsLiteral (2 * line.length) := by
  unfold scan at scanned
  split at scanned
  · obtain rfl := Except.ok.inj scanned
    simp
  · dsimp only at scanned
    split at scanned
    · exact isLiteral_of_scanFrom scanned
    · next a _ =>
      obtain ⟨others, scannedRest, same⟩ := bind_eq_ok scanned
      obtain rfl := Except.ok.inj same
      refine List.forall_mem_append.2 ⟨fun token mem number => ?_, fun token mem number => ?_⟩
      · rcases Assignment.lexeme_of_mem_tokens mem with ⟨_, kind⟩ | ⟨_, kind⟩ | kind
          <;> cases kind.symm.trans number
      · refine (isLiteral_of_scanFrom scannedRest token mem number).mono ?_
        rw [List.length_drop]
        exact Nat.mul_le_mul_left 2 (Nat.sub_le _ _)

end Token
end CalcSheet
