import CalcSheet.Proofs.Sheet.Runs
import CalcSheet.Proofs.Sheet.Saving

/-!
# Row numbers in saved texts

A saved text has the number of a row in place of each identifier. Lines without an identifier are
found by the number zero, although none of them was given it.
-/
namespace CalcSheet
namespace Reference

/-- The first reference in a text that has too many digits to be read. -/
def firstLong? (t : Text) : Option Text :=
  ((pieces t).filterMap Piece.digits?).find? fun digits => decide (Digits.maxLength < digits.length)

theorem firstLong?_eq_none {t : Text} :
    firstLong? t = none ↔ ∀ digits, .reference digits ∈ pieces t →
      digits.length ≤ Digits.maxLength := by
  simp only [firstLong?, List.find?_eq_none, List.mem_filterMap, Piece.digits?_eq_some,
    decide_eq_true_eq, Nat.not_lt]
  exact ⟨fun h digits mem => h digits ⟨_, mem, rfl⟩, fun h digits ⟨_, mem, same⟩ =>
    h digits (same ▸ mem)⟩

end Reference

namespace Sheet
open Reference

variable {s : Sheet} {t : Text} {n r k : Nat}

/-- The line in the `k`-th place was given the identifier `n`. Zero is given to no line. -/
def IsGiven (s : Sheet) (n k : Nat) : Prop := n ≠ 0 ∧ ∃ d, s.data[k]? = some d ∧ d.id = n

/-- `r` is the row, counted from one, of the line that was given the identifier, or else one. -/
def SavesAs (s : Sheet) (n r : Nat) : Prop :=
  (∃ k, s.IsGiven n k ∧ r = k + 1) ∨ ((∀ k, ¬ s.IsGiven n k) ∧ r = 1)

/-- No line before the `k`-th place is without an identifier, and the one there is. -/
def IsFirstUnnamed (s : Sheet) (k : Nat) : Prop :=
  (∃ d, s.data[k]? = some d ∧ d.id = 0) ∧ ∀ j < k, ∀ d, s.data[j]? = some d → d.id ≠ 0

theorem savesAs_iff (nodup : s.ids.Nodup) (nonzero : n ≠ 0) :
    s.SavesAs n r ↔ s.numberOf n = r := by
  have given (k : Nat) : s.IsGiven n k ↔ s.rowOfId n = some k := by
    rw [rowOfId_eq_some nodup (Int.natCast_ne_zero.2 nonzero), IsGiven, and_iff_right nonzero]
  simp only [SavesAs, given]
  unfold numberOf
  cases s.rowOfId n with
  | none => simp [eq_comm]
  | some k => simp [eq_comm]

theorem savesAs_zero : s.SavesAs 0 r ↔ r = 1 := by
  simp [SavesAs, IsGiven]

theorem isFirstUnnamed_iff : s.IsFirstUnnamed k ↔ s.rowOfId 0 = some k := by
  rw [rowOfId, List.findIdx?_eq_some_iff_getElem]
  constructor
  · rintro ⟨⟨d, at_k, unnamed⟩, first⟩
    obtain ⟨bound, rfl⟩ := List.getElem?_eq_some_iff.1 at_k
    refine ⟨bound, decide_eq_true unnamed, fun j before found => ?_⟩
    exact first j before _ (List.getElem?_eq_getElem _) (of_decide_eq_true found)
  · rintro ⟨bound, found, first⟩
    refine ⟨⟨_, List.getElem?_eq_getElem bound, of_decide_eq_true found⟩, fun j before d at_j => ?_⟩
    obtain ⟨_, rfl⟩ := List.getElem?_eq_some_iff.1 at_j
    exact fun unnamed => first j before (decide_eq_true unnamed)

theorem numberOf_zero (first : s.IsFirstUnnamed k) : s.numberOf 0 = k + 1 := by
  have row : s.rowOfId ((0 : Nat) : Int) = some k := isFirstUnnamed_iff.1 first
  rw [numberOf, row, Option.getD_some]

/-- Zero is saved as if no line had it unless a line further down is the first without an
identifier. -/
theorem savesAs_numberOf_zero :
    s.SavesAs 0 (s.numberOf 0) ↔ ∀ k, s.IsFirstUnnamed k → k = 0 := by
  rw [savesAs_zero]
  constructor
  · intro one k first
    have := numberOf_zero first
    omega
  · intro none
    unfold numberOf
    cases row : s.rowOfId ((0 : Nat) : Int) with
    | none => rfl
    | some k =>
      obtain rfl := none k (isFirstUnnamed_iff.2 row)
      rfl

/-- The first reference that cannot be read stops the rewriting. -/
theorem Edit.replaceRefs_numberOfId_of_long {ps : List Piece} {digits : Text}
    (found : (ps.filterMap Piece.digits?).find? (fun d => decide (Digits.maxLength < d.length))
      = some digits) (s : Sheet) :
    ((replaceRefs numberOfId ps).on s).1 = .error (.longReference digits.length) := by
  induction ps with
  | nil => exact nomatch found
  | cons piece ps ih =>
    cases piece with
    | char c =>
      rw [replaceRefs_char, ih found]
      rfl
    | reference d =>
      simp only [List.filterMap_cons, Piece.digits?, List.find?_cons] at found
      by_cases long : Digits.maxLength < d.length
      · rw [decide_eq_true long] at found
        cases found
        rw [replaceRefs_long long]
      · rw [decide_eq_false long] at found
        rw [replaceRefs_reference (Nat.le_of_not_lt long), numberOfId_on]
        dsimp only
        rw [ih found]
        rfl

theorem denormalizeRefs_eq_of_firstLong? (s : Sheet) (t : Text) :
    s.denormalizeRefs t = match firstLong? t with
      | some digits => .error (.longReference digits.length)
      | none => .ok (rewritten s.numberOf t) := by
  cases found : firstLong? t with
  | some digits => exact Edit.replaceRefs_numberOfId_of_long found s
  | none => exact denormalizeRefs_eq (firstLong?_eq_none.1 found)

/-- At all times, every text is saved with each reference replaced by the number of the line that
has the identifier, unless one of them cannot be read. This is the line that was given it, or the
first if none was; only zero stands for the first line without an identifier. -/
theorem denormalizeRefs_after (content : Text) (places : Int) (calls : List Call) (t : Text) :
    let s := (ofContent content places).after calls
    (s.denormalizeRefs t = match firstLong? t with
      | some digits => .error (.longReference digits.length)
      | none => .ok (rewritten s.numberOf t))
    ∧ (∀ n r, n ≠ 0 → (s.SavesAs n r ↔ s.numberOf n = r))
    ∧ (∀ k, s.IsFirstUnnamed k → s.numberOf 0 = k + 1)
    ∧ (s.SavesAs 0 (s.numberOf 0) ↔ ∀ k, s.IsFirstUnnamed k → k = 0) := by
  intro s
  have h : s.Valid := (valid_ofContent content places).after calls
  exact ⟨denormalizeRefs_eq_of_firstLong? s t, fun n r => savesAs_iff h.nodup,
    fun k => numberOf_zero, savesAs_numberOf_zero⟩

/-- The first row has the identifier 1 and the second one none. -/
theorem denormalizeRefs_after_ensureLineId :
    let s := (ofContent ['5', '\n', '7'] 4).after [.ensureLineId 0]
    s.denormalizeRefs ['&', '[', '1', ']', '&', '[', '9', ']', '&', '[', '0', ']']
        = .ok ['&', '[', '1', ']', '&', '[', '1', ']', '&', '[', '2', ']']
      ∧ (s.SavesAs 1 1 ↔ s.numberOf 1 = 1) ∧ (s.SavesAs 9 1 ↔ s.numberOf 9 = 1)
      ∧ s.numberOf 0 = 2 := by
  intro s
  obtain ⟨saved, given, zero, -⟩ := denormalizeRefs_after ['5', '\n', '7'] 4 [.ensureLineId 0]
    ['&', '[', '1', ']', '&', '[', '9', ']', '&', '[', '0', ']']
  have first : s.IsFirstUnnamed 1 := isFirstUnnamed_iff.2 (by decide)
  exact ⟨saved.trans (by decide), given 1 1 (by decide), given 9 1 (by decide), zero 1 first⟩

/-- A reference to zero is not saved as one to the first row, as one to another identifier that no
line was given. -/
theorem not_forall_savesAs :
    ¬ ∀ (content : Text) (places : Int) (calls : List Call) (t : Text),
      let s := (ofContent content places).after calls
      ∃ f : Nat → Nat, (∀ digits, .reference digits ∈ pieces t →
          s.SavesAs (Text.naturalOf digits) (f (Text.naturalOf digits)))
        ∧ s.denormalizeRefs t = .ok (rewritten f t) := by
  intro always
  obtain ⟨f, numbers, saved⟩ :=
    always ['5', '\n', '7'] 4 [.ensureLineId 0] ['&', '[', '0', ']']
  have one : f 0 = 1 := savesAs_zero.1 (numbers ['0'] (by decide))
  have two : ((ofContent ['5', '\n', '7'] 4).after [.ensureLineId 0]).denormalizeRefs
      ['&', '[', '0', ']'] = .ok ['&', '[', '2', ']'] := by decide
  have found : match? ['&', '[', '0', ']'] = some ['0'] := by decide
  have first : rewritten f ['&', '[', '0', ']'] = Reference.text (f 0) := by
    rw [rewritten_of_match?_some found]
    exact List.append_nil _
  rw [two, first, one] at saved
  exact absurd saved (by decide)

end Sheet
end CalcSheet
