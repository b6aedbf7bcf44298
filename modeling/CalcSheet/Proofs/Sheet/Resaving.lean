import CalcSheet.Proofs.Sheet.RoundTrips
import CalcSheet.Proofs.Sheet.RowNumbers
import CalcSheet.Proofs.Text.Documents

/-!
# Saved texts saved again

A saved text refers to rows by their numbers, and loading it gives each row its number as
identifier. So what is saved after loading is the saved text.
-/
namespace CalcSheet
namespace Reference

theorem firstLong?_append_newline (t rest : Text) :
    firstLong? (t ++ '\n' :: rest) = (firstLong? t).or (firstLong? rest) := by
  simp only [firstLong?, pieces_append_newline, List.filterMap_append, List.filterMap_cons,
    Piece.digits?, List.find?_append]

end Reference

namespace Sheet
open Reference

variable {s : Sheet} {t : Text} {n : Nat}

theorem denormalizeRefs_append_newline (s : Sheet) (t rest : Text) :
    s.denormalizeRefs (t ++ '\n' :: rest) = (do
      let first ← s.denormalizeRefs t
      let others ← s.denormalizeRefs rest
      pure (first ++ '\n' :: others)) := by
  simp only [denormalizeRefs_eq_of_firstLong?, firstLong?_append_newline,
    rewritten_append_newline]
  cases firstLong? t with
  | some digits => rfl
  | none => cases firstLong? rest <;> rfl

/-- The document is saved as one text. -/
theorem normalizedContent_eq (s : Sheet) : s.normalizedContent = s.denormalizeRefs s.content := by
  rw [normalizedContent, content]
  induction s.texts with
  | nil => rfl
  | cons line others ih =>
    rw [List.mapM_cons]
    cases others with
    | nil =>
      rw [Text.unlines]
      cases s.denormalizeRefs line <;> rfl
    | cons next others =>
      rw [Text.unlines, denormalizeRefs_append_newline, ← ih, List.mapM_cons]
      · cases s.denormalizeRefs line with
        | error fault => rfl
        | ok first =>
          cases s.denormalizeRefs next with
          | error fault => rfl
          | ok second => cases others.mapM s.denormalizeRefs <;> rfl
      · simp

/-- The numbers in a saved text are those of rows. -/
theorem Valid.numberOf_le (h : s.Valid) (n : Nat) : s.numberOf n ≤ s.texts.length := by
  have paired : s.data.length = s.texts.length := h.paired
  have nonempty := h.nonempty
  rw [numberOf]
  cases row : s.rowOfId n with
  | none => exact nonempty
  | some k =>
    have bound := (List.findIdx?_eq_some_iff_findIdx_eq.1 row).1
    rw [Option.getD_some]
    omega

/-- Each reference in the text is written as row numbers are and names one of the first `n` rows. -/
def RefersWithin (n : Nat) (t : Text) : Prop :=
  ∀ digits, .reference digits ∈ pieces t →
    Digits.IsCanonical digits ∧ 1 ≤ Text.naturalOf digits ∧ Text.naturalOf digits ≤ n

theorem Valid.refersWithin_rewritten (h : s.Valid) (t : Text) :
    RefersWithin s.texts.length (rewritten s.numberOf t) := by
  intro digits mem
  obtain ⟨old, -, rfl⟩ := exists_of_mem_pieces_rewritten mem
  rw [Digits.naturalOf_text]
  exact ⟨Digits.isCanonical_text (Nat.succ_ne_zero _), Nat.succ_pos _, h.numberOf_le _⟩

/-- A row of a loaded text has its number as identifier. -/
theorem numberOf_setNormalizedContent (loaded : Sheet) (saved : Text) (pos : 1 ≤ n)
    (inside : n ≤ saved.lines.length) : (loaded.setNormalizedContent saved).numberOf n = n := by
  have nodup := (valid_setNormalizedContent loaded saved).nodup
  have held : (n : Int) ≠ 0 := by omega
  have here : (loaded.setNormalizedContent saved).data[n - 1]? = some ⟨(n : Int), .decimal⟩ := by
    simp only [setNormalizedContent, numbered, List.getElem?_map,
      List.getElem?_range (show n - 1 < saved.lines.length by omega), Option.map_some,
      Nat.sub_add_cancel pos]
  rw [numberOf, (rowOfId_eq_some nodup held).2 ⟨_, here, rfl⟩]
  exact Nat.sub_add_cancel pos

/-- A text that refers to its own rows, by numbers that can be read, is saved as it was loaded. -/
theorem normalizedContent_setNormalizedContent (loaded : Sheet) {saved : Text}
    (within : RefersWithin n saved) (inside : n ≤ saved.lines.length)
    (readable : ∀ digits, .reference digits ∈ pieces saved →
      digits.length ≤ Digits.maxLength) :
    (loaded.setNormalizedContent saved).normalizedContent = .ok saved := by
  have content : (loaded.setNormalizedContent saved).content = saved := Text.unlines_lines saved
  rw [normalizedContent_eq, content, denormalizeRefs_eq readable]
  refine congrArg _ (rewritten_eq_self (fun digits mem => (within digits mem).1) ?_)
  intro digits mem
  obtain ⟨-, pos, le⟩ := within digits mem
  exact numberOf_setNormalizedContent loaded saved pos (Nat.le_trans le inside)

theorem RefersWithin.readable (within : RefersWithin n t) (index : n ≤ indexBound) (digits : Text)
    (mem : .reference digits ∈ pieces t) : digits.length ≤ Digits.maxLength := by
  obtain ⟨canonical, pos, le⟩ := within digits mem
  have short : n < 10 ^ 19 := by
    unfold indexBound at index
    omega
  rw [← Digits.text_naturalOf canonical, Digits.length_text_le_iff (by omega)]
  calc Text.naturalOf digits < 10 ^ 19 := Nat.lt_of_le_of_lt le short
    _ ≤ 10 ^ Digits.maxLength := Nat.pow_le_pow_right (by decide) (by decide)

/-- At all times, a document is saved with each reference replaced by the number of a row, unless
one of them cannot be read. The saved text refers to rows of the sheet only, by their numbers, and
once it is loaded, on whatever sheet, the same text is saved again. -/
theorem normalizedContent_after (content : Text) (places : Int) (calls : List Call) :
    let s := (ofContent content places).after calls
    (s.normalizedContent = match firstLong? s.content with
      | some digits => .error (.longReference digits.length)
      | none => .ok (rewritten s.numberOf s.content))
    ∧ ∀ saved, s.normalizedContent = .ok saved →
        RefersWithin s.texts.length saved
        ∧ s.texts.length ≤ saved.lines.length
        ∧ (s.texts.length ≤ indexBound → ∀ loaded : Sheet,
            (loaded.setNormalizedContent saved).normalizedContent = .ok saved) := by
  intro s
  have valid : s.Valid := (valid_ofContent content places).after calls
  have normalized := (normalizedContent_eq s).trans (denormalizeRefs_eq_of_firstLong? s s.content)
  refine ⟨normalized, fun saved done => ?_⟩
  rw [normalized] at done
  cases long : firstLong? s.content with
  | some digits =>
    rw [long] at done
    exact nomatch done
  | none =>
    rw [long] at done
    obtain rfl := Except.ok.inj done
    have within := valid.refersWithin_rewritten s.content
    have rows : s.texts.length ≤ (rewritten s.numberOf s.content).lines.length := by
      rw [Sheet.content, rewritten_unlines, ← List.length_map (rewritten s.numberOf)]
      exact Text.length_le_length_lines_unlines _
    exact ⟨within, rows, fun index loaded =>
      normalizedContent_setNormalizedContent loaded within rows (within.readable index)⟩

/-- The second row has the identifier 1. The first is given two lines with references, one of them
to an identifier that no row has, in place of its text. -/
theorem normalizedContent_after_setLine :
    let s := (ofContent ['5', '\n', '&', '[', '0', '2', ']'] 4).after
      [.ensureLineId 1, .setLine 0 ['&', '[', '0', '1', ']', '\n', '&', '[', '9', ']']]
    let saved : Text := ['&', '[', '2', ']', '\n', '&', '[', '1', ']', '\n', '&', '[', '1', ']']
    s.normalizedContent = .ok saved ∧ s.texts.length = 2 ∧ RefersWithin 2 saved
      ∧ ∀ loaded : Sheet, (loaded.setNormalizedContent saved).normalizedContent = .ok saved := by
  intro s saved
  have done : s.normalizedContent = .ok saved := by decide
  have rows : s.texts.length = 2 := by decide
  obtain ⟨-, again⟩ := normalizedContent_after ['5', '\n', '&', '[', '0', '2', ']'] 4
    [.ensureLineId 1, .setLine 0 ['&', '[', '0', '1', ']', '\n', '&', '[', '9', ']']]
  obtain ⟨within, -, same⟩ := again saved done
  exact ⟨done, rows, within, same (by decide)⟩

/-- A document with a reference that has too many digits to be read is not saved at all. -/
theorem not_forall_saved :
    ¬ ∀ (content : Text) (places : Int) (calls : List Call),
      let s := (ofContent content places).after calls
      ∃ saved, s.normalizedContent = .ok saved ∧ RefersWithin s.texts.length saved
        ∧ ∀ loaded : Sheet, (loaded.setNormalizedContent saved).normalizedContent = .ok saved := by
  intro always
  let digits : Text := List.replicate 4300 '0' ++ ['1']
  obtain ⟨saved, done, -⟩ := always (written digits) 4 []
  have decimal : ∀ c ∈ digits, Text.isDecimal c = true := by
    intro c mem
    rcases List.mem_append.1 mem with zero | one
    · rw [List.eq_of_mem_replicate zero]
      decide
    · rw [List.mem_singleton.1 one]
      decide
  have nonempty : digits ≠ [] := List.append_ne_nil_of_right_ne_nil _ (List.cons_ne_nil _ _)
  have long : firstLong? (written digits) = some digits := by
    have whole := pieces_written_append nonempty decimal []
    rw [List.append_nil] at whole
    have length : Digits.maxLength < digits.length := by
      simp only [digits, List.length_append, List.length_replicate]
      decide
    simp [firstLong?, whole, Piece.digits?, length]
  have content : ((ofContent (written digits) 4).after []).content = written digits :=
    Text.unlines_lines _
  rw [normalizedContent_eq, denormalizeRefs_eq_of_firstLong?, content, long] at done
  cases done

end Sheet
end CalcSheet
