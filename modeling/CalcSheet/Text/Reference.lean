import CalcSheet.Digits
import CalcSheet.Text.Character

/-!
# Line references

`&[12]` refers to the line with the identifier 12. In a text, references are found from left to
right; everything else stays as it is.
-/
namespace CalcSheet

/-- The identifier of a line. Zero is held by lines that were never referred to. -/
abbrev LineId := Int

namespace Reference

/-- The reference with the given digits. -/
def written (digits : Text) : Text := '&' :: '[' :: digits ++ [']']

/-- The text that refers to a line. -/
def text (id : LineId) : Text := written (Digits.signed id)

/-- The digits of the reference that `t` begins with. -/
def match? : Text → Option Text
  | '&' :: '[' :: rest =>
      let digits := rest.takeWhile Text.isDecimal
      if digits.isEmpty then none
      else if (rest.drop digits.length).head? = some ']' then some digits
      else none
  | _ => none

theorem eq_written_append {t digits : Text} (h : match? t = some digits) :
    t = written digits ++ t.drop (digits.length + 3) := by
  unfold match? at h
  split at h
  · next rest =>
    have parts := List.prefix_iff_eq_append.1 (List.takeWhile_prefix Text.isDecimal (l := rest))
    dsimp only at h
    split at h
    · simp at h
    · split at h
      · next closed =>
        obtain ⟨tail, htail⟩ := List.head?_eq_some_iff.1 closed
        obtain rfl : rest.takeWhile Text.isDecimal = digits := by simpa using h
        rw [htail] at parts
        have drop : rest.drop ((rest.takeWhile Text.isDecimal).length + 1) = tail := by
          rw [← List.drop_drop, htail, List.drop_one, List.tail_cons]
        simp [written, drop, parts]
      · simp at h
  · simp at h

/-- The digits in a text that consists of one reference. -/
def digits? (t : Text) : Option Text :=
  (match? t).filter fun digits => t.length = digits.length + 3

theorem eq_written_of_digits? {t digits : Text} (h : digits? t = some digits) :
    t = written digits := by
  obtain ⟨found, length⟩ := Option.filter_eq_some_iff.1 h
  have whole := eq_written_append found
  rw [List.drop_of_length_le (by simpa using Nat.le_of_eq (of_decide_eq_true length)),
    List.append_nil] at whole
  exact whole

/-- A piece of a text: a reference, by its digits, or a character outside of all references. -/
inductive Piece where
  | char (c : Char)
  | reference (digits : Text)
  deriving DecidableEq, Repr

def Piece.text : Piece → Text
  | char c => [c]
  | reference digits => written digits

/-- The pieces of a text that has at most `fuel` characters. -/
def piecesWithin : Nat → Text → List Piece
  | 0, _ => []
  | _ + 1, [] => []
  | fuel + 1, c :: rest =>
      match match? (c :: rest) with
      | some digits => .reference digits :: piecesWithin fuel (rest.drop (digits.length + 2))
      | none => .char c :: piecesWithin fuel rest

def pieces (t : Text) : List Piece := piecesWithin t.length t

theorem flatMap_text_piecesWithin {fuel : Nat} {t : Text} (h : t.length ≤ fuel) :
    (piecesWithin fuel t).flatMap Piece.text = t := by
  fun_induction piecesWithin fuel t with
  | case1 t => simpa using h
  | case2 => rfl
  | case3 fuel c rest digits found ih =>
    have whole := eq_written_append found
    simp only [List.length_cons] at h
    rw [List.flatMap_cons, ih (by simp; omega), whole]
    simp [Piece.text]
  | case4 fuel c rest found ih =>
    simp only [List.length_cons] at h
    simp [Piece.text, ih (by omega)]

/-- Nothing of a text is lost in its pieces. -/
@[simp] theorem flatMap_text_pieces (t : Text) : (pieces t).flatMap Piece.text = t :=
  flatMap_text_piecesWithin (Nat.le_refl _)

end Reference
end CalcSheet
