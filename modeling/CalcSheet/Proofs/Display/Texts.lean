import Mathlib.Data.List.TakeWhile
import CalcSheet.Display.Result
import CalcSheet.Proofs.Success
import CalcSheet.Proofs.Text.Numerals

/-!
# The texts of displayed results

A number that is displayed has a text: it keeps at least the digit in front of its point. No numeral
has a space in it. A matrix has no text in any base.
-/
namespace CalcSheet

/-- A text that begins with something other than a point. -/
def StartsApart (t : Text) : Prop := ∃ c rest, t = c :: rest ∧ c ≠ '.'

namespace StartsApart

theorem of_forall {t : Text} (nonempty : t ≠ []) (h : '.' ∉ t) : StartsApart t := by
  obtain ⟨c, rest, rfl⟩ := List.exists_cons_of_ne_nil nonempty
  refine ⟨c, rest, rfl, ?_⟩
  rintro rfl
  exact h List.mem_cons_self

theorem append {t : Text} (h : StartsApart t) (u : Text) : StartsApart (t ++ u) := by
  obtain ⟨c, rest, rfl, apart⟩ := h
  exact ⟨c, rest ++ u, rfl, apart⟩

end StartsApart

namespace Decimal

theorem startsApart_text (n : Nat) : StartsApart (Digits.text 10 n) :=
  .of_forall (Digits.text_ne_nil 10 n) fun point =>
    absurd (Digits.isDigit_of_mem_text point) (by decide)

theorem startsApart_withPoint (n places : Nat) :
    StartsApart (withPoint (Digits.text 10 n) places) := by
  unfold withPoint
  split
  · exact startsApart_text n
  · dsimp only
    refine .append (.of_forall ?_ fun point => ?_) _
    · rw [ne_eq, List.take_eq_nil_iff, not_or]
      have nonempty := Digits.text_ne_nil 10 n
      constructor
      · simp only [List.length_append, List.length_replicate]
        omega
      · simp [nonempty]
    · rcases List.mem_append.1 (List.mem_of_mem_take point) with zeros | digits
      · exact absurd (List.eq_of_mem_replicate zeros) (by decide)
      · exact absurd (Digits.isDigit_of_mem_text digits) (by decide)

theorem startsApart_plain (x : Decimal) : StartsApart x.plain := by
  unfold plain
  dsimp only
  split
  · exact ⟨'-', _, rfl, by decide⟩
  · split
    · exact startsApart_withPoint _ _
    · split
      · exact startsApart_text _
      · exact (startsApart_text _).append _

end Decimal

namespace Numeral

theorem trimFraction_ne_nil {t : Text} (h : StartsApart t) : trimFraction t ≠ [] := by
  obtain ⟨c, rest, rfl, apart⟩ := h
  unfold trimFraction
  split
  · next point =>
    have inside : '.' ∈ rest := by simpa [Ne.symm apart] using point
    have kept : ¬ (rest.reverse.dropWhile (· = '0')).isEmpty := by
      rw [List.isEmpty_iff, List.dropWhile_eq_nil_iff]
      intro zeros
      exact absurd (zeros '.' (List.mem_reverse.2 inside)) (by decide)
    rw [List.reverse_cons, List.dropWhile_append, if_neg kept, ne_eq, List.reverse_eq_nil_iff,
      List.dropWhile_eq_nil_iff]
    intro points
    exact apart (of_decide_eq_true (points c (by simp)))
  · simp

theorem decimal_ne_nil {x : Scalar} {places : Int} {t : Text} (shown : decimal x places = .ok t) :
    t ≠ [] := by
  obtain ⟨precision, -, shown⟩ := bind_eq_ok shown
  obtain ⟨e, -, shown⟩ := bind_eq_ok shown
  obtain ⟨rounded, -, shown⟩ := bind_eq_ok shown
  obtain rfl := Except.ok.inj shown
  cases rounded with
  | finite y =>
    simp only [Scalar.textBy]
    split
    · simp
    · exact trimFraction_ne_nil (Decimal.startsApart_plain y)
  | infinite negative =>
    exact List.append_ne_nil_of_right_ne_nil _ (by decide)
  | nan negative signaling payload =>
    have named : Scalar.nanName signaling ≠ [] := by cases signaling <;> decide
    exact List.append_ne_nil_of_left_ne_nil (List.append_ne_nil_of_right_ne_nil _ named) _

end Numeral

/-! ### Spaces -/

namespace Digits

theorem char_ne_space : ∀ d < 16, char d ≠ ' ' := by decide

theorem space_not_mem_text {base : Nat} (two_le : 2 ≤ base) (le : base ≤ 16) (n : Nat) :
    ' ' ∉ text base n :=
  not_mem_text two_le (fun d lt => char_ne_space d (Nat.lt_of_lt_of_le lt le)) n

end Digits

namespace Decimal

theorem space_not_mem_withPoint {t : Text} (none : ' ' ∉ t) (places : Nat) :
    ' ' ∉ withPoint t places := by
  unfold withPoint
  split
  · exact none
  · have padded : ' ' ∉ List.replicate (places + 1 - t.length) '0' ++ t := fun mem =>
      (List.mem_append.1 mem).elim
        (fun zeros => absurd (List.eq_of_mem_replicate zeros) (by decide)) none
    dsimp only
    intro mem
    rcases List.mem_append.1 mem with front | back
    · exact padded (List.mem_of_mem_take front)
    · exact padded (List.mem_of_mem_drop ((List.mem_cons.1 back).resolve_left (by decide)))

theorem space_not_mem_plain (x : Decimal) : ' ' ∉ x.plain := by
  have digits : ' ' ∉ Digits.text 10 x.coefficient :=
    Digits.space_not_mem_text (by decide) (by decide) _
  have body : ' ' ∉ (if x.exponent ≤ 0 then
      withPoint (Digits.text 10 x.coefficient) (-x.exponent).toNat
      else if x.IsZero then Digits.text 10 x.coefficient
      else Digits.text 10 x.coefficient ++ List.replicate x.exponent.toNat '0') := by
    split
    · exact space_not_mem_withPoint digits _
    · split
      · exact digits
      · intro mem
        rcases List.mem_append.1 mem with digit | zeros
        · exact digits digit
        · exact absurd (List.eq_of_mem_replicate zeros) (by decide)
  unfold plain
  dsimp only
  split
  · exact fun mem => body ((List.mem_cons.1 mem).resolve_left (by decide))
  · exact body

end Decimal

theorem Scalar.space_not_mem_textBy {numeral : Decimal → Text} (none : ∀ x, ' ' ∉ numeral x)
    (x : Scalar) : ' ' ∉ x.textBy numeral := by
  cases x with
  | finite x => exact none x
  | infinite negative =>
    have named : ' ' ∉ (if negative then ['-'] else []) ++ infinityName := by
      cases negative <;> decide
    exact named
  | nan negative signaling payload =>
    have named : ' ' ∉ (if negative then ['-'] else []) ++ nanName signaling := by
      cases negative <;> cases signaling <;> decide
    have written : ' ' ∉ payloadText payload := by
      unfold payloadText
      split
      · decide
      · exact Digits.space_not_mem_text (by decide) (by decide) payload
    exact fun mem => (List.mem_append.1 mem).elim named written

namespace Numeral

theorem mem_of_mem_trimFraction {t : Text} {c : Char} (mem : c ∈ trimFraction t) : c ∈ t := by
  unfold trimFraction at mem
  split at mem
  · have kept := (List.dropWhile_suffix _).subset (List.mem_reverse.1 mem)
    exact List.mem_reverse.1 ((List.dropWhile_suffix _).subset kept)
  · exact mem

theorem space_not_mem_decimal {x : Scalar} {places : Int} {t : Text}
    (shown : decimal x places = .ok t) : ' ' ∉ t := by
  obtain ⟨precision, -, shown⟩ := bind_eq_ok shown
  obtain ⟨e, -, shown⟩ := bind_eq_ok shown
  obtain ⟨rounded, -, shown⟩ := bind_eq_ok shown
  obtain rfl := Except.ok.inj shown
  refine Scalar.space_not_mem_textBy (fun y => ?_) rounded
  split
  · decide
  · exact fun mem => y.space_not_mem_plain (mem_of_mem_trimFraction mem)

theorem space_not_mem_integer {x : Scalar} {base : Nat} {t : Text} (two_le : 2 ≤ base)
    (le : base ≤ 16) (shown : integer base x = .ok t) : ' ' ∉ t := by
  obtain ⟨precision, -, shown⟩ := bind_eq_ok shown
  obtain ⟨rounded, -, shown⟩ := bind_eq_ok shown
  cases rounded with
  | infinite | nan => exact nomatch shown
  | finite y =>
    obtain rfl := Except.ok.inj shown
    have digits := Digits.space_not_mem_text two_le le y.coefficient
    split
    · exact fun mem => digits ((List.mem_cons.1 mem).resolve_left (by decide))
    · exact digits

end Numeral

namespace Displayed

/-- The first space in the text of a number stands behind its numeral. -/
theorem space_not_mem_numeral {base : Numeral.Base} {places : Int} {x : Scalar} {t : Text}
    (shown : numeral base places x = .ok t) : ' ' ∉ t := by
  cases base with
  | decimal => exact Numeral.space_not_mem_decimal shown
  | binary => exact Numeral.space_not_mem_integer (by decide) (by decide) shown
  | hexadecimal => exact Numeral.space_not_mem_integer (by decide) (by decide) shown

theorem number_ne_nil {converted : Bool} {places : Int} {q : Quantity} {t : Text}
    (h : number .decimal converted places q = .ok t) : t ≠ [] := by
  have formed : ∃ q : Quantity, (do
      let digits ← numeral .decimal places q.value
      let suffix ← unitSuffix q.unit
      pure (digits ++ suffix)) = Except.ok t := by
    unfold number at h
    cases converted with
    | true => exact ⟨q, h⟩
    | false =>
      obtain ⟨q, -, h⟩ := bind_eq_ok h
      exact ⟨q, h⟩
  obtain ⟨q, formed⟩ := formed
  obtain ⟨digits, written, formed⟩ := bind_eq_ok formed
  obtain ⟨suffix, -, formed⟩ := bind_eq_ok formed
  obtain rfl := Except.ok.inj formed
  exact List.append_ne_nil_of_left_ne_nil (Numeral.decimal_ne_nil written) _

/-- A number in decimals has a text. -/
theorem text_ne_nil {converted : Bool} {places : Int} {q : Quantity} {shown : Displayed}
    (h : ofValue .decimal converted places (.number q) = .ok shown) : shown.text ≠ [] := by
  obtain ⟨text, formed, done⟩ := bind_eq_ok h
  obtain rfl := Except.ok.inj done
  exact number_ne_nil formed

theorem text_matrix {base : Numeral.Base} {converted : Bool} {places : Int} {m : QuantityMatrix}
    {shown : Displayed} (h : ofValue base converted places (.matrix m) = .ok shown) :
    shown.text = [] := by
  obtain ⟨cells, -, done⟩ := bind_eq_ok h
  obtain rfl := Except.ok.inj done
  rfl

end Displayed
end CalcSheet
