import CalcSheet.Proofs.Lists
import CalcSheet.Text.Reference

/-!
# Pieces of a text

How the pieces of a text begin: with the reference that the text begins with, or else with its first
character.
-/
namespace CalcSheet.Reference

@[simp] theorem length_written (digits : Text) : (written digits).length = digits.length + 3 := by
  simp [written]

@[simp] theorem getLast?_written (digits : Text) : (written digits).getLast? = some ']' := by
  rw [written, List.getLast?_concat]

theorem getElem?_written_append (digits rest : Text) :
    (written digits ++ rest)[digits.length + 2]? = some ']' := by
  have place : digits.length + 2 = ('&' :: '[' :: digits).length := rfl
  rw [written, List.append_assoc, place, List.getElem?_append_right (Nat.le_refl _), Nat.sub_self]
  rfl

theorem drop_written_append (digits rest : Text) :
    (written digits ++ rest).drop (digits.length + 3) = rest := by
  rw [← length_written, List.drop_left]

theorem match?_eq_none_of_ne {t : Text} (h : ∀ c ∈ t.head?, c ≠ '&') : match? t = none := by
  unfold match?
  split
  · exact absurd rfl (h '&' rfl)
  · rfl

/-- A reference is found at its start, whatever follows it. -/
theorem match?_written_append {digits : Text} (nonempty : digits ≠ [])
    (decimal : ∀ c ∈ digits, Text.isDecimal c = true) (rest : Text) :
    match? (written digits ++ rest) = some digits := by
  have run : (digits ++ ']' :: rest).takeWhile Text.isDecimal = digits :=
    takeWhile_append_of_stop decimal (by simp; decide)
  simp [written, match?, run, nonempty]

theorem digits?_written {digits : Text} (nonempty : digits ≠ [])
    (decimal : ∀ c ∈ digits, Text.isDecimal c = true) : digits? (written digits) = some digits := by
  have found := match?_written_append nonempty decimal []
  rw [List.append_nil] at found
  simp [digits?, found]

theorem decimal_of_match? {t digits : Text} (h : match? t = some digits) :
    digits ≠ [] ∧ ∀ c ∈ digits, Text.isDecimal c = true := by
  unfold match? at h
  split at h
  · next rest =>
    dsimp only at h
    split at h
    · simp at h
    · next nonempty =>
      split at h
      · obtain rfl : rest.takeWhile Text.isDecimal = digits := by simpa using h
        exact ⟨by simpa using nonempty, List.all_eq_true.1 (List.all_takeWhile)⟩
      · simp at h
  · simp at h

theorem length_of_match? {t digits : Text} (h : match? t = some digits) :
    digits.length + 3 ≤ t.length := by
  rw [eq_written_append h, List.length_append, length_written]
  exact Nat.le_add_right _ _

/-- The sign of a reference stands in it only once. -/
theorem getElem?_written_ne_sign {digits : Text}
    (decimal : ∀ c ∈ digits, Text.isDecimal c = true) {i : Nat} (pos : 0 < i) :
    (written digits)[i]? ≠ some '&' := by
  obtain ⟨i, rfl⟩ := Nat.exists_eq_succ_of_ne_zero (Nat.ne_of_gt pos)
  intro sign
  have mem : '&' ∈ '[' :: digits ++ [']'] := List.mem_of_getElem? sign
  simp only [List.cons_append, List.mem_cons, List.mem_append, List.not_mem_nil, or_false] at mem
  rcases mem with mem | mem | mem
  · exact absurd mem (by decide)
  · exact absurd (decimal _ mem) (by decide)
  · exact absurd mem (by decide)

/-- More fuel than a text has characters changes nothing. -/
theorem piecesWithin_eq_pieces {fuel : Nat} {t : Text} (h : t.length ≤ fuel) :
    piecesWithin fuel t = pieces t := by
  suffices ∀ n ≤ fuel, ∀ t : Text, t.length ≤ n → piecesWithin fuel t = piecesWithin n t from
    this t.length h t (Nat.le_refl _)
  clear h t
  induction fuel with
  | zero =>
    intro n hn t ht
    obtain rfl : n = 0 := by omega
    rfl
  | succ fuel ih =>
    intro n hn t ht
    cases t with
    | nil => cases n <;> simp [piecesWithin]
    | cons c rest =>
      obtain ⟨n, rfl⟩ : ∃ m, n = m + 1 := ⟨n - 1, by simp at ht; omega⟩
      simp only [List.length_cons] at ht
      simp only [piecesWithin]
      cases match? (c :: rest) with
      | none => simp only [ih n (by omega) rest (by omega)]
      | some digits =>
        have shorter : (rest.drop (digits.length + 2)).length ≤ n := by simp; omega
        simp only [ih n (by omega) _ shorter]

theorem pieces_cons_of_match?_none {c : Char} {rest : Text} (h : match? (c :: rest) = none) :
    pieces (c :: rest) = .char c :: pieces rest := by
  simp only [pieces, List.length_cons, piecesWithin, h]

theorem pieces_of_match?_some {t digits : Text} (h : match? t = some digits) :
    pieces t = .reference digits :: pieces (t.drop (digits.length + 3)) := by
  cases t with
  | nil => simp [match?] at h
  | cons c rest =>
    simp only [pieces, List.length_cons, piecesWithin, h, List.drop_succ_cons]
    rw [piecesWithin_eq_pieces (by simp), pieces]

theorem pieces_written_append {digits : Text} (nonempty : digits ≠ [])
    (decimal : ∀ c ∈ digits, Text.isDecimal c = true) (rest : Text) :
    pieces (written digits ++ rest) = .reference digits :: pieces rest := by
  rw [pieces_of_match?_some (match?_written_append nonempty decimal rest)]
  simp [written]

/-- The digits of a piece that is a reference. -/
def Piece.digits? : Piece → Option Text
  | char _ => none
  | reference digits => some digits

theorem Piece.digits?_eq_some {piece : Piece} {digits : Text} :
    piece.digits? = some digits ↔ piece = .reference digits := by
  cases piece <;> simp [digits?]

instance (ps : List Piece) (p : Text → Prop) [DecidablePred p] :
    Decidable (∀ digits, .reference digits ∈ ps → p digits) :=
  decidable_of_iff (∀ piece ∈ ps, ∀ digits ∈ piece.digits?, p digits)
    ⟨fun h digits mem => h _ mem digits rfl, fun h _ mem digits found =>
      h digits (Piece.digits?_eq_some.1 found ▸ mem)⟩

end CalcSheet.Reference
