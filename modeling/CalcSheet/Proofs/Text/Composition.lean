import CalcSheet.Proofs.Text.Rewriting

/-!
# Rewriting one text after another

A rewritten text has the references of the first text, with other numbers in them: rewriting makes
no reference of what was none. So two rewritings that follow one another are one.
-/
namespace CalcSheet.Reference

/-- The piece that stands in a rewritten text for a piece of the first text. -/
def Piece.renumbered (f : Nat → Nat) : Piece → Piece
  | .char c => .char c
  | .reference digits => .reference (Digits.text 10 (f (Text.naturalOf digits)))

variable {f : Nat → Nat} {t : Text}

theorem pieces_rewritten (f : Nat → Nat) (t : Text) :
    pieces (rewritten f t) = (pieces t).map (Piece.renumbered f) := by
  induction h : t.length using Nat.strong_induction_on generalizing t with
  | _ n ih =>
    subst h
    cases t with
    | nil => rfl
    | cons c t =>
      cases found : match? (c :: t) with
      | none =>
        -- the sign stays outside of every reference, whatever is rewritten behind it
        have other : match? (c :: rewritten f t) = none := by
          by_cases sign : c = '&'
          · subst sign
            rw [← (Alike.rewritten f t).match?_sign, found]
          · exact match?_eq_none_of_ne (by simpa using sign)
        rw [rewritten_cons_of_match?_none found, pieces_cons_of_match?_none other,
          pieces_cons_of_match?_none found, ih t.length (by simp) t rfl]
        rfl
      | some digits =>
        have shorter : ((c :: t).drop (digits.length + 3)).length < (c :: t).length := by simp
        have decimal : ∀ c ∈ Digits.text 10 (f (Text.naturalOf digits)), Text.isDecimal c = true :=
          fun _ mem => Digits.isDecimal_of_isDigit (Digits.isDigit_of_mem_text mem)
        rw [rewritten_of_match?_some found, text_natCast,
          pieces_written_append (Digits.text_ne_nil 10 _) decimal, pieces_of_match?_some found,
          ih _ shorter _ rfl]
        rfl

/-- The references of a rewritten text are those of the first text with their new numbers. -/
theorem exists_of_mem_pieces_rewritten {digits : Text}
    (mem : .reference digits ∈ pieces (rewritten f t)) :
    ∃ old, .reference old ∈ pieces t ∧ digits = Digits.text 10 (f (Text.naturalOf old)) := by
  rw [pieces_rewritten] at mem
  obtain ⟨piece, found, same⟩ := List.mem_map.1 mem
  cases piece with
  | char c => exact nomatch same
  | reference old =>
    cases same
    exact ⟨old, found, rfl⟩

/-- A text is not changed where each number stays and is written as numbers are. -/
theorem rewritten_eq_self
    (canonical : ∀ digits, .reference digits ∈ pieces t → Digits.IsCanonical digits)
    (kept : ∀ digits, .reference digits ∈ pieces t →
      f (Text.naturalOf digits) = Text.naturalOf digits) : rewritten f t = t := by
  have same (piece : Piece) (mem : piece ∈ pieces t) : piece.rewritten f = piece.text := by
    cases piece with
    | char c => rfl
    | reference digits =>
      rw [Piece.rewritten, kept digits mem, text_natCast,
        Digits.text_naturalOf (canonical digits mem)]
      rfl
  calc rewritten f t = (pieces t).flatMap Piece.text := List.flatMap_congr same
    _ = t := flatMap_text_pieces t

end CalcSheet.Reference
