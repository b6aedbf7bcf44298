import CalcSheet.Proofs.Decimal.Range
import CalcSheet.Proofs.Sheet.Saving
import CalcSheet.Proofs.Text.Composition

/-!
# References there and back

Turning row numbers into identifiers may give identifiers to rows, one reference after the other.
What a row has got it keeps, so all references can be read off the sheet that is left behind, where
the numbers are found again.
-/
namespace CalcSheet.Sheet
open Reference

variable {s s' : Sheet} {t : Text} {n : Nat}

/-- The `n`-th row, counted from one, has an identifier. -/
def IsNamed (s : Sheet) (n : Nat) : Prop := n ≠ 0 ∧ ∃ d, s.data[n - 1]? = some d ∧ d.id ≠ 0

theorem IsNamed.le_length (named : s.IsNamed n) (paired : s.Paired) : n ≤ s.texts.length := by
  obtain ⟨-, d, at_n, -⟩ := named
  have bound := (List.getElem?_eq_some_iff.1 at_n).1
  have length : s.data.length = s.texts.length := paired
  omega

/-- `s'` is `s` in which some lines without an identifier have got one, each the next in turn. -/
structure Registers (s s' : Sheet) : Prop where
  grows : Grows s s'
  labels : Labels s s'
  counted : (s.ids.length : Int) + s'.nextId = s'.ids.length + s.nextId

namespace Registers

theorem refl (h : s.Valid) : Registers s s := ⟨.refl h, .refl s, rfl⟩

theorem trans {s'' : Sheet} (first : Registers s s') (second : Registers s' s'') :
    Registers s s'' where
  grows := first.grows.trans second.grows
  labels := first.labels.trans second.labels
  counted := by
    have := first.counted
    have := second.counted
    omega

theorem identified (h : s.Valid) {k : Nat} {d : LineData} (at_k : s.data[k]? = some d)
    (unnamed : d.id = 0) : Registers s (Edit.identified s k) where
  grows := h.grows_identified at_k unnamed
  labels := labels_identified at_k unnamed
  counted := by
    have one : (Edit.identified s k).ids.length = s.ids.length + 1 :=
      (idsOf_modify_id_perm at_k unnamed (Int.ne_of_gt h.nextId_pos)).length_eq
    change (s.ids.length : Int) + (s.nextId + 1) = _
    omega

/-- There are not more new identifiers than rows. -/
theorem nextId_le (registers : Registers s s') : s'.nextId ≤ s.nextId + s.texts.length := by
  have rows : s'.data.length = s.texts.length :=
    registers.labels.texts ▸ registers.grows.valid.paired
  have ids : s'.ids.length ≤ s.texts.length := by
    have all : (s'.data.map (·.id)).length = s.texts.length := (List.length_map _).trans rows
    exact all ▸ List.length_filter_le _ _
  calc s'.nextId ≤ s.ids.length + s'.nextId := Int.le_add_of_nonneg_left (Int.natCast_nonneg _)
    _ = s'.ids.length + s.nextId := registers.counted
    _ ≤ s.texts.length + s.nextId := Int.add_le_add_right (Int.ofNat_le.2 ids) _
    _ = s.nextId + s.texts.length := Int.add_comm _ _

end Registers

namespace Edit

end Edit

/-- A sheet whose rows and identifiers can be counted: rows by integers of 64 bits, identifiers,
even if every row gets another one, by integers that can be written. -/
structure IsCountable (s : Sheet) : Prop where
  rows : s.texts.length ≤ indexBound
  ids : Digits.IsWritable (s.nextId + s.texts.length)

instance (s : Sheet) : Decidable s.IsCountable :=
  decidable_of_iff (_ ∧ _) ⟨fun ⟨rows, ids⟩ => ⟨rows, ids⟩, fun h => ⟨h.rows, h.ids⟩⟩

theorem Valid.counted (h : s.Valid) (row : n ≤ s.texts.length) :
    (n : Int) ≤ s.nextId + s.texts.length := by
  have positive : (0 : Int) < s.nextId := h.nextId_pos
  omega

theorem IsCountable.length_text_le (countable : s.IsCountable) (nonzero : n ≠ 0)
    (counted : (n : Int) ≤ s.nextId + s.texts.length) :
    (Digits.text 10 n).length ≤ Digits.maxLength := by
  refine (Digits.length_text_le_iff nonzero).2 ?_
  calc n ≤ (s.nextId + s.texts.length).natAbs := by omega
    _ < 10 ^ Digits.count (s.nextId + s.texts.length).natAbs := Digits.lt_pow_count _
    _ ≤ 10 ^ Digits.maxLength := Nat.pow_le_pow_right (by decide) countable.ids

theorem IsCountable.length_le (countable : s.IsCountable) {digits : Text}
    (canonical : Digits.IsCanonical digits)
    (counted : (Text.naturalOf digits : Int) ≤ s.nextId + s.texts.length) :
    digits.length ≤ Digits.maxLength := by
  rw [← Digits.text_naturalOf canonical]
  exact countable.length_text_le (Digits.naturalOf_ne_zero canonical) counted

end CalcSheet.Sheet
