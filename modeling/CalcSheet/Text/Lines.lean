import CalcSheet.Text.Character

/-!
# Lines of a text

`lines` and `unlines` are inverse to each other: a text has one line more than line breaks, and no
line holds a line break.
-/
namespace CalcSheet.Text

/-- The first line and the ones that follow it. -/
def splitLines : Text → Text × List Text
  | [] => ([], [])
  | c :: rest =>
      let (first, others) := splitLines rest
      if c = '\n' then ([], first :: others) else (c :: first, others)

def lines (t : Text) : List Text := (splitLines t).1 :: (splitLines t).2

def unlines : List Text → Text
  | [] => []
  | [line] => line
  | line :: others => line ++ '\n' :: unlines others

theorem unlines_splitLines (t : Text) : unlines ((splitLines t).1 :: (splitLines t).2) = t := by
  induction t with
  | nil => rfl
  | cons c rest ih =>
    by_cases h : c = '\n'
    · simp only [splitLines, h, ↓reduceIte, unlines, List.nil_append, ih]
    · cases others : (splitLines rest).2 <;> simp_all [splitLines, unlines]

/-- Nothing of a text is lost in its lines. -/
@[simp] theorem unlines_lines (t : Text) : unlines (lines t) = t := unlines_splitLines t

theorem splitLines_of_not_mem {line : Text} (h : '\n' ∉ line) : splitLines line = (line, []) := by
  induction line with
  | nil => rfl
  | cons c line ih =>
    simp only [List.mem_cons, not_or] at h
    simp [splitLines, ih h.2, Ne.symm h.1]

theorem splitLines_append {line : Text} (h : '\n' ∉ line) (rest : Text) :
    splitLines (line ++ '\n' :: rest) = (line, lines rest) := by
  induction line with
  | nil => simp [splitLines, lines]
  | cons c line ih =>
    simp only [List.mem_cons, not_or] at h
    simp [splitLines, ih h.2, Ne.symm h.1]

/-- Lines without line breaks are read back from the text that they make up. -/
theorem lines_unlines {ls : List Text} (nonempty : ls ≠ []) (h : ∀ line ∈ ls, '\n' ∉ line) :
    lines (unlines ls) = ls := by
  induction ls with
  | nil => exact absurd rfl nonempty
  | cons line others ih =>
    have first := h line List.mem_cons_self
    cases others with
    | nil => simp [unlines, lines, splitLines_of_not_mem first]
    | cons next others =>
      have later := ih (by simp) fun l hl => h l (List.mem_cons_of_mem _ hl)
      simp only [unlines, lines, splitLines_append first]
      simpa [lines, unlines] using later

theorem newline_not_mem_splitLines (t : Text) :
    '\n' ∉ (splitLines t).1 ∧ ∀ line ∈ (splitLines t).2, '\n' ∉ line := by
  induction t with
  | nil => simp [splitLines]
  | cons c rest ih =>
    by_cases h : c = '\n'
    · simpa [splitLines, h] using ih
    · simpa [splitLines, h, Ne.symm h] using ih

theorem newline_not_mem_of_mem_lines {t line : Text} (h : line ∈ lines t) : '\n' ∉ line := by
  rcases List.mem_cons.1 h with rfl | h
  · exact (newline_not_mem_splitLines t).1
  · exact (newline_not_mem_splitLines t).2 line h

end CalcSheet.Text
