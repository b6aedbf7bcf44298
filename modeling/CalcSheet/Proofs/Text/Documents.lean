import CalcSheet.Proofs.Text.Composition
import CalcSheet.Text.Lines

/-!
# References in documents

No reference goes over the end of a line. So a document has the references of its lines, and it is
rewritten line by line.
-/
namespace CalcSheet
namespace Text

theorem splitLines_append_newline (t rest : Text) :
    splitLines (t ++ '\n' :: rest) = ((splitLines t).1, (splitLines t).2 ++ lines rest) := by
  induction t with
  | nil => simp [splitLines, lines]
  | cons c t ih =>
    simp only [List.cons_append, splitLines, ih]
    split <;> rfl

/-- A line break ends the last of the lines before it, whatever follows. -/
theorem lines_append_newline (t rest : Text) :
    lines (t ++ '\n' :: rest) = lines t ++ lines rest := by
  simp only [lines, splitLines_append_newline, List.cons_append]

/-- Lines that are put together make up at least as many lines: they may have line breaks in them.
-/
theorem length_le_length_lines_unlines (ls : List Text) :
    ls.length ≤ (lines (unlines ls)).length := by
  fun_induction unlines ls with
  | case1 => exact Nat.zero_le _
  | case2 line => simp [lines]
  | case3 line others _ ih =>
    have first : 1 ≤ (lines line).length := by simp [lines]
    rw [lines_append_newline, List.length_append, List.length_cons]
    omega

end Text

namespace Reference

variable {f : Nat → Nat} {t : Text}

/-- Whether a line begins with a reference does not depend on the lines that follow. -/
theorem match?_append_newline (nonempty : t ≠ []) (rest : Text) :
    match? (t ++ '\n' :: rest) = match? t := by
  have digits (u : Text) : (u ++ '\n' :: rest).takeWhile Text.isDecimal = u.takeWhile Text.isDecimal :=
    takeWhile_append_cons (by decide) u rest
  match t with
  | [] => exact absurd rfl nonempty
  | [c] =>
    by_cases sign : c = '&'
    · subst sign
      rfl
    · rw [match?_eq_none_of_ne (by simpa using sign), match?_eq_none_of_ne (by simpa using sign)]
  | c :: d :: u =>
    by_cases opening : c = '&' ∧ d = '['
    · obtain ⟨rfl, rfl⟩ := opening
      have inside := (List.takeWhile_prefix Text.isDecimal (l := u)).length_le
      have closing : ((u ++ '\n' :: rest).drop (u.takeWhile Text.isDecimal).length).head? = some ']'
          ↔ (u.drop (u.takeWhile Text.isDecimal).length).head? = some ']' := by
        rw [List.drop_append_of_le_length inside, List.head?_append]
        cases (u.drop (u.takeWhile Text.isDecimal).length).head? <;> simp
      simp only [match?, List.cons_append, digits, closing]
    · have other (v : Text) : match? (c :: d :: v) = none := by
        unfold match?
        split
        · next same =>
          simp only [List.cons.injEq] at same
          exact absurd ⟨same.1, same.2.1⟩ opening
        · rfl
      exact (other _).trans (other _).symm

/-- The pieces of a document are those of its lines. -/
theorem pieces_append_newline (t rest : Text) :
    pieces (t ++ '\n' :: rest) = pieces t ++ .char '\n' :: pieces rest := by
  induction h : t.length using Nat.strong_induction_on generalizing t with
  | _ n ih =>
    subst h
    cases t with
    | nil => exact pieces_cons_of_match?_none (match?_eq_none_of_ne (by simp))
    | cons c t =>
      have whole := match?_append_newline (List.cons_ne_nil c t) rest
      cases found : match? (c :: t) with
      | none =>
        have step : pieces (c :: (t ++ '\n' :: rest)) = .char c :: pieces (t ++ '\n' :: rest) :=
          pieces_cons_of_match?_none (whole.trans found)
        rw [List.cons_append, step, pieces_cons_of_match?_none found, ih t.length (by simp) t rfl,
          List.cons_append]
      | some digits =>
        have shorter : ((c :: t).drop (digits.length + 3)).length < (c :: t).length := by simp
        rw [pieces_of_match?_some (whole.trans found), pieces_of_match?_some found,
          List.drop_append_of_le_length (length_of_match? found), ih _ shorter _ rfl,
          List.cons_append]

theorem rewritten_append_newline (f : Nat → Nat) (t rest : Text) :
    rewritten f (t ++ '\n' :: rest) = rewritten f t ++ '\n' :: rewritten f rest := by
  rw [rewritten, pieces_append_newline, List.flatMap_append, List.flatMap_cons]
  rfl

/-- A document is rewritten line by line. -/
theorem rewritten_unlines (f : Nat → Nat) (ls : List Text) :
    rewritten f (Text.unlines ls) = Text.unlines (ls.map (rewritten f)) := by
  induction ls with
  | nil => rfl
  | cons line others ih =>
    cases others with
    | nil => rfl
    | cons next others =>
      rw [Text.unlines, rewritten_append_newline, ih]
      · rfl
      · simp

end Reference
end CalcSheet
