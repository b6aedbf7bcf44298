import CalcSheet.Proofs.Display.Numerals
import CalcSheet.Proofs.Token.Alone

/-!
# Numerals that are read again

What is displayed for a number that is not negative is read as one number, with the mark of its
base: the one that it has been rounded to.
-/
namespace CalcSheet
open Decimal

namespace Token

variable {c : Char} {rest t : Text} {x : Decimal}

/-- A line that is one number, from its first character to its last, where no names are known. -/
def ReadsAs (line : Text) (x : Decimal) : Prop :=
  scan line [] = .ok [⟨.operand (.number x), 0, line.length⟩]

theorem readsAs_of_number? (digit : Text.isDecimal c = true) (noEquals : '=' ∉ c :: rest)
    (number : number? none (c :: rest) = some (.operand (.number x), rest.length + 1)) :
    ReadsAs (c :: rest) x := by
  have other {d : Char} (noDigit : Text.isDecimal d = false) : c ≠ d := by
    rintro rfl
    exact Bool.noConfusion (digit.symm.trans noDigit)
  have calculated : isTextLine (c :: rest) = false := isTextLine_eq_false fun d first => by
    obtain rfl : c = d := Option.some.inj first
    exact ⟨other (by decide), other (by decide)⟩
  have matched : next [] false none c rest = .ok (.operand (.number x), rest.length + 1) := by
    rw [next_of_not_name (List.forall_mem_nil _) (Text.isBlank_of_isDecimal digit)
      (isNameChar_of_isDecimal digit) (other (by decide)), number]
    rfl
  have whole : Advances [] ⟨false, none, 0, c :: rest⟩ _ _ := .token rfl matched (.refl _)
  have ended : (Cursor.behind ⟨false, none, 0, c :: rest⟩
      (.operand (.number x), rest.length + 1)).rest = [] := List.drop_length
  have scanned := whole.scanFrom ended (Nat.le_refl _)
  rw [ReadsAs, scan, calculated, Assignment.parse?_eq_none noEquals]
  rw [Nat.zero_add] at scanned
  exact scanned

/-! ### Decimal numerals -/

theorem announced?_eq_none (hex : 'x' ∉ t) (binary : 'b' ∉ t) : announced? t = none := by
  unfold announced?
  split
  · simp at hex
  · simp at binary
  · rfl

theorem digitValues {ds : List Nat} (lt : ∀ d ∈ ds, d < 10) :
    (ds.map Digits.char).map (fun c => (Text.digitValue? c).getD 0) = ds := by
  rw [List.map_map]
  refine (List.map_congr_left fun d mem => ?_).trans (List.map_id ds)
  simp [Digits.digitValue?_char (lt d mem)]

theorem isDecimal_of_mem {ds : List Nat} (lt : ∀ d ∈ ds, d < 10) :
    ∀ c ∈ ds.map Digits.char, Text.isDecimal c = true := by
  intro c mem
  obtain ⟨d, inside, rfl⟩ := List.mem_map.1 mem
  exact Digits.isDecimal_of_isDigit (Digits.isDigit_char (lt d inside))

end Token

namespace DecimalNumeral
open Token

variable {n : DecimalNumeral}

/-- A numeral without a sign is read to its end, digit for digit. -/
theorem numeral?_text (positive : n.negative = false) :
    numeral? n.text = some (.operand (.number n.number), n.text.length) := by
  have isDigit {ds : List Nat} (inside : ∀ d ∈ ds, d ∈ n.whole ++ n.fraction) : ∀ d ∈ ds, d < 10 :=
    fun d mem => n.isDigit d (inside d mem)
  have whole := isDigit fun d => List.mem_append_left n.fraction
  have fraction := isDigit fun d => List.mem_append_right n.whole
  have number : n.number = .ofDigits n.whole n.fraction := by rw [number, positive]; rfl
  have nonempty : (n.whole.map Digits.char).isEmpty = false := by simpa using n.nonempty
  rw [number]
  by_cases integer : n.fraction = []
  · have text : n.text = n.whole.map Digits.char := by simp [text, positive, sign, integer]
    have before : (n.whole.map Digits.char).takeWhile Text.isDecimal = n.whole.map Digits.char :=
      List.takeWhile_eq_self_iff.2 (isDecimal_of_mem whole)
    simp only [text, numeral?, before, List.drop_length, fraction?, digitValues whole, nonempty,
      integer]
    rfl
  · have text : n.text = n.whole.map Digits.char ++ '.' :: n.fraction.map Digits.char := by
      simp [text, positive, sign, integer]
    have before : (n.whole.map Digits.char ++ '.' :: n.fraction.map Digits.char).takeWhile
        Text.isDecimal = n.whole.map Digits.char :=
      takeWhile_append_of_stop (isDecimal_of_mem whole) (by simp; decide)
    have behind : (n.fraction.map Digits.char).takeWhile Text.isDecimal
        = n.fraction.map Digits.char := List.takeWhile_eq_self_iff.2 (isDecimal_of_mem fraction)
    simp only [text, numeral?, before, List.drop_left, fraction?, behind, digitValues whole,
      digitValues fraction, nonempty, List.length_append, List.length_cons]
    rw [Nat.add_right_comm, Nat.add_assoc]
    rfl

theorem char_of_mem_text {c : Char} (positive : n.negative = false) (mem : c ∈ n.text) :
    Text.isDecimal c = true ∨ c = '.' := by
  rw [text, sign, positive] at mem
  rcases List.mem_append.1 mem with whole | fraction
  · refine .inl (isDecimal_of_mem (fun d inside => ?_) c whole)
    exact n.isDigit d (List.mem_append_left _ inside)
  · split at fraction
    · cases fraction
    · rcases List.mem_cons.1 fraction with point | fraction
      · exact .inr point
      · refine .inl (isDecimal_of_mem (fun d inside => ?_) c fraction)
        exact n.isDigit d (List.mem_append_right _ inside)

/-- A numeral without a sign is read as the number that it denotes. -/
theorem readsAs_text (positive : n.negative = false) : ReadsAs n.text n.number := by
  have numeral := numeral?_text positive
  have only {c : Char} := @char_of_mem_text n c positive
  have absent {c : Char} (other : ¬ (Text.isDecimal c = true ∨ c = '.')) : c ∉ n.text :=
    fun mem => other (only mem)
  have number : number? none n.text = some (.operand (.number n.number), n.text.length) := by
    rw [number?, announced?_eq_none (absent (by decide)) (absent (by decide)), numeral]
    rfl
  obtain ⟨d, ds, whole⟩ := List.exists_cons_of_ne_nil n.nonempty
  have text : n.text = Digits.char d :: (ds.map Digits.char
      ++ if n.fraction = [] then [] else '.' :: n.fraction.map Digits.char) := by
    simp [text, sign, positive, whole]
  have digit : Text.isDecimal (Digits.char d) = true :=
    isDecimal_of_mem (fun e mem => n.isDigit e (List.mem_append_left _ mem)) _
      (List.mem_map_of_mem (whole ▸ List.mem_cons_self))
  have noEquals : '=' ∉ n.text := absent (by decide)
  rw [text] at number noEquals ⊢
  exact readsAs_of_number? digit noEquals number

end DecimalNumeral

/-! ### Numerals of other bases -/

theorem Digits.exists_text_eq {base : Nat} (two_le : 2 ≤ base) (m : Nat) : ∃ ds : List Nat,
    (∀ d ∈ ds, d < base) ∧ text base m = ds.map char ∧ toNat base ds = m := by
  unfold text
  split
  · next zero => exact ⟨[0], by simp; omega, rfl, by rw [zero]; rfl⟩
  · exact ⟨ofNat base m, fun d => lt_of_mem_ofNat two_le, rfl, toNat_ofNat base m⟩

namespace Token

variable {base : Nat} {isDigit : Char → Bool}

/-- All digits that a number has in a base are read. -/
theorem radix?_text (two_le : 2 ≤ base)
    (digits : ∀ d < base, isDigit (Digits.char d) = true ∧ hexValue (Digits.char d) = d) (m : Nat) :
    radix? base isDigit (Digits.text base m)
      = some (.operand (.number (.ofNat m)), (Digits.text base m).length + 2) := by
  obtain ⟨ds, lt, written, denotes⟩ := Digits.exists_text_eq two_le m
  have nonempty := Digits.text_ne_nil base m
  have run : (ds.map Digits.char).takeWhile isDigit = ds.map Digits.char := by
    refine List.takeWhile_eq_self_iff.2 fun c mem => ?_
    obtain ⟨d, inside, rfl⟩ := List.mem_map.1 mem
    exact (digits d (lt d inside)).1
  have values : (ds.map Digits.char).map hexValue = ds := by
    rw [List.map_map]
    exact (List.map_congr_left fun d mem => (digits d (lt d mem)).2).trans (List.map_id ds)
  rw [written] at nonempty ⊢
  simp only [radix?, run, values, denotes, List.isEmpty_iff, nonempty, if_false]

theorem isHexDigit_char : ∀ d < 16, isHexDigit (Digits.char d) = true ∧
    hexValue (Digits.char d) = d := by
  decide

theorem isBit_char : ∀ d < 2, isBit (Digits.char d) = true ∧ hexValue (Digits.char d) = d := by
  decide

end Token

namespace Numeral
open Token

variable {x y : Decimal} {places : Int} {base : Base}

def Base.radix : Base → Nat
  | .decimal => 10
  | .binary => 2
  | .hexadecimal => 16

/-- What stands before the digits where they are read in the base. -/
def Base.mark : Base → Text
  | .decimal => []
  | .binary => ['0', 'b']
  | .hexadecimal => ['0', 'x']

theorem numeral_eq_integer (other : base ≠ .decimal) (places : Int) (x : Scalar) :
    Displayed.numeral base places x = integer base.radix x := by
  cases base with
  | decimal => exact absurd rfl other
  | binary => rfl
  | hexadecimal => rfl

/-- The digits of a natural number are read in their base, where they are marked. -/
theorem readsAs_mark (other : base ≠ .decimal) (m : Nat) :
    ReadsAs (base.mark ++ Digits.text base.radix m) (.ofNat m) := by
  have noEquals (two_le : 2 ≤ base.radix) : '=' ∉ Digits.text base.radix m := by
    have digits : ∀ d < 16, Digits.char d ≠ '=' := by decide
    have small : base.radix ≤ 16 := by cases base <;> decide
    exact Digits.not_mem_text two_le (fun d lt => digits d (lt.trans_le small)) m
  have marked {c : Char} (sign : c ≠ '=') (two_le : 2 ≤ base.radix)
      (read : number? none ('0' :: c :: Digits.text base.radix m)
        = some (.operand (.number (.ofNat m)), (Digits.text base.radix m).length + 2)) :
      ReadsAs ('0' :: c :: Digits.text base.radix m) (.ofNat m) := by
    refine readsAs_of_number? (by decide) ?_ read
    simp [sign.symm, noEquals two_le]
  cases base with
  | decimal => exact absurd rfl other
  | binary =>
    refine marked (by decide) (by decide) ?_
    change (radix? 2 isBit (Digits.text 2 m) <|> _) = _
    rw [radix?_text (by decide) isBit_char]
    rfl
  | hexadecimal =>
    refine marked (by decide) (by decide) ?_
    change (radix? 16 isHexDigit (Digits.text 16 m) <|> _) = _
    rw [radix?_text (by decide) isHexDigit_char]
    rfl

/-- A number is displayed in another base by the integer that its size is rounded to, with its sign
unless this is zero. -/
theorem exists_integer (radix : Nat) (range : x.order < maxOrder) :
    ∃ m : Nat, RoundsTo 0 |x.toRat| m ∧ integer radix (.finite x)
      = .ok ((if x.toRat < 0 ∧ m ≠ 0 then ['-'] else []) ++ Digits.text radix m) := by
  obtain ⟨t, shown⟩ := (integer_succeedsIff radix range.le).exists_ok_iff.2
    (order_rounded_lt range (by decide))
  obtain ⟨p, precision, -⟩ := @precisionOf_eq x 0 range.le (by decide)
  rw [shown]
  unfold integer at shown
  rw [precision] at shown
  change roundTo p (.finite x) (-0) >>= _ = _ at shown
  obtain ⟨r, rounded, same⟩ := bind_eq_ok shown
  obtain ⟨y, rfl, rounds, negative, exponent⟩ := exists_of_roundTo rounded
  have whole : y.exponent = 0 := by omega
  have size : |y.toRat| = y.coefficient := by rw [abs_toRat, whole, zpow_zero, mul_one]
  have sign : y.IsNegative ↔ x.toRat < 0 ∧ y.coefficient ≠ 0 := by
    have kept : ¬ y.IsZero → ¬ x.IsZero := fun nonzero zero => nonzero <| by
      rw [toRat_eq_zero.2 zero] at rounds
      exact toRat_eq_zero.1 rounds.eq_zero
    rw [toRat_neg_iff, IsNegative, IsNegative, negative]
    exact ⟨fun both => ⟨⟨both.1, kept both.2⟩, both.2⟩, fun both => ⟨both.1.1, both.2⟩⟩
  obtain rfl := Except.ok.inj same
  refine ⟨y.coefficient, size ▸ rounds.abs, congrArg _ ?_⟩
  by_cases minus : y.IsNegative
  · rw [if_pos minus, if_pos (sign.1 minus)]
    rfl
  · rw [if_neg minus, if_neg fun other => minus (sign.2 other)]
    rfl

end Numeral

theorem DecimalNumeral.negative_eq_false {n : DecimalNumeral} (nonneg : 0 ≤ n.number.toRat) :
    n.negative = false := by
  by_contra negative
  have minus : n.number.negative = true := Bool.not_eq_false _ ▸ negative
  have zero : n.number.IsZero := by
    by_contra nonzero
    exact not_lt.2 nonneg (toRat_neg_iff.2 ⟨minus, nonzero⟩)
  rw [eq_of_number_eq_zero (toRat_eq_zero.2 zero)] at minus
  exact nomatch minus

namespace Displayed
open Numeral Token

variable {x y : Decimal} {places : Int} {base : Base}

/-- What is displayed for a number that is not negative is read as the number that it is rounded
to. -/
theorem exists_readsAs (base : Base) (range : x.order < maxOrder) (nonneg : 0 ≤ places)
    (most : places ≤ maxOrder) (positive : 0 ≤ x.toRat) :
    ∃ t y, numeral base places (.finite x) = .ok t ∧ ReadsAs (base.mark ++ t) y ∧
      RoundsTo (base.places places) x.toRat y.toRat := by
  by_cases decimal : base = .decimal
  · subst decimal
    have limit : maxOrder = 999999 := rfl
    have least : -maxOrder ≤ places := by omega
    obtain ⟨n, shown, -, rounds⟩ :=
      exists_decimal range.le least most (order_rounded_lt range least)
    have unsigned := DecimalNumeral.negative_eq_false (rounds.nonneg positive)
    exact ⟨n.text, n.number, shown, n.readsAs_text unsigned, rounds⟩
  · obtain ⟨m, rounds, shown⟩ := exists_integer base.radix range
    have last : base.places places = 0 := by
      cases base with
      | decimal => exact absurd rfl decimal
      | _ => rfl
    rw [if_neg fun minus => not_lt.2 positive minus.1, List.nil_append] at shown
    rw [abs_of_nonneg positive] at rounds
    refine ⟨_, .ofNat m, (numeral_eq_integer decimal _ _).trans shown, readsAs_mark decimal m, ?_⟩
    rwa [last, toRat_ofNat]

/-- In another base than ten a negative number is displayed as its opposite is, with a sign unless
it is rounded to zero. -/
theorem numeral_of_neg (other : base ≠ .decimal) (range : x.order < maxOrder)
    (negative : x.toRat < 0) (range' : y.order < maxOrder) (opposite : y.toRat = -x.toRat) :
    ∃ t, numeral base places (.finite y) = .ok t ∧
      (RoundsTo 0 x.toRat 0 → numeral base places (.finite x) = .ok ['0']) ∧
      (¬ RoundsTo 0 x.toRat 0 → numeral base places (.finite x) = .ok ('-' :: t)) := by
  obtain ⟨m, rounds, shown⟩ := exists_integer base.radix range
  obtain ⟨m', rounds', shown'⟩ := exists_integer base.radix range'
  rw [opposite, abs_neg] at rounds'
  obtain rfl : m = m' := Nat.cast_injective (rounds.unique rounds')
  rw [numeral_eq_integer other, numeral_eq_integer other]
  rw [if_neg fun minus => not_lt.2 negative.le (by linarith [minus.1]), List.nil_append] at shown'
  refine ⟨_, shown', fun zero => ?_, fun nonzero => ?_⟩
  · have none := rounds.unique zero.abs
    obtain rfl : m = 0 := by simpa using none
    rw [shown, if_neg fun minus => minus.2 rfl]
    rfl
  · have some_ : m ≠ 0 := by
      rintro rfl
      have zero := rounds.neg
      rw [abs_of_neg negative, neg_neg, Nat.cast_zero, neg_zero] at zero
      exact nonzero zero
    rw [shown, if_pos ⟨negative, some_⟩]
    rfl

/-- What is displayed for a number that is not negative is read as the number that it is rounded
to. In another base than ten a negative number is displayed as its opposite is, with a sign unless
it is rounded to zero. -/
theorem numeral_reads (base : Base) (range : x.order < maxOrder) (nonneg : 0 ≤ places)
    (most : places ≤ maxOrder) :
    (0 ≤ x.toRat → ∃ t y, numeral base places (.finite x) = .ok t ∧ ReadsAs (base.mark ++ t) y ∧
        RoundsTo (base.places places) x.toRat y.toRat) ∧
      (base ≠ .decimal → x.toRat < 0 → ∀ y : Decimal, y.order < maxOrder → y.toRat = -x.toRat →
        ∃ t, numeral base places (.finite y) = .ok t ∧
          (RoundsTo 0 x.toRat 0 → numeral base places (.finite x) = .ok ['0']) ∧
          (¬ RoundsTo 0 x.toRat 0 → numeral base places (.finite x) = .ok ('-' :: t))) :=
  ⟨exists_readsAs base range nonneg most, fun other negative _ range' opposite =>
    numeral_of_neg other range negative range' opposite⟩

theorem numeral_reads_half :
    (⟨false, 25545, -1⟩ : Decimal).order < maxOrder ∧
      (⟨true, 25545, -1⟩ : Decimal).order < maxOrder ∧
      ∃ t y, numeral .hexadecimal 2 (.finite ⟨false, 25545, -1⟩) = .ok t ∧ t = ['9', 'F', 'B'] ∧
        ReadsAs ('0' :: 'x' :: t) y ∧ RoundsTo 0 (toRat ⟨false, 25545, -1⟩) y.toRat ∧
        numeral .hexadecimal 2 (.finite ⟨true, 25545, -1⟩) = .ok ('-' :: t) := by
  have range : (⟨false, 25545, -1⟩ : Decimal).order < maxOrder := by decide
  have range' : (⟨true, 25545, -1⟩ : Decimal).order < maxOrder := by decide
  have value : toRat ⟨false, 25545, -1⟩ = 25545 / 10 := by norm_num [toRat, signedCoefficient]
  have value' : toRat ⟨true, 25545, -1⟩ = -(25545 / 10) := by norm_num [toRat, signedCoefficient]
  have digits : numeral .hexadecimal 2 (.finite ⟨false, 25545, -1⟩) = .ok ['9', 'F', 'B'] := by
    decide +kernel
  obtain ⟨t, y, shown, reads, rounds⟩ :=
    (@numeral_reads _ 2 .hexadecimal range (by decide) (by decide)).1 (by rw [value]; norm_num)
  obtain ⟨t', shown', -, signed⟩ :=
    (@numeral_reads _ 2 .hexadecimal range' (by decide) (by decide)).2
      (by decide) (by rw [value']; norm_num) _ range (by rw [value, value', neg_neg])
  obtain rfl : t = t' := Except.ok.inj (shown.symm.trans shown')
  have nonzero : ¬ RoundsTo 0 (toRat ⟨true, 25545, -1⟩) 0 := fun zero => by
    have near := zero.near
    rw [value'] at near
    norm_num at near
  exact ⟨range, range', t, y, shown, Except.ok.inj (shown.symm.trans digits), reads, rounds,
    signed nonzero⟩

end Displayed
end CalcSheet
