import CalcSheet.Proofs.Sheet.Consistency
import CalcSheet.Proofs.Sheet.Neighbours

/-!
# Replacing a line

A row that has no identifier and assigns nothing leaves no trace but in the sum. So when its text is
replaced, rows that do not mention the sum cannot tell.
-/
namespace CalcSheet
namespace Pass

variable {places : Int} {s s' next next' : State} {row row' : Row} {rows above below : List Row}
  {line : LineResult} {lines lines' : List LineResult} {p p' : Pass} {r : Nat}

/-- A row that does not begin as an assignment, or that has no result to assign. -/
def AssignsNothing (row : Row) (line : LineResult) : Prop :=
  Assignment.target? (row.text.take maxWidth) = none ∨ line.result = none

theorem AssignsNothing.assignment?_eq (plain : AssignsNothing row line) :
    assignment? row line = none := by
  rcases plain with target | noResult
  · rw [assignment?, target]
  · exact assignment?_of_result_none noResult

theorem identified?_of_id_zero (noId : row.id = 0) : identified? row line = none := by
  rw [identified?, noId]
  cases line.result <;> rfl

/-- A row that has no identifier and assigns nothing changes no more than the sum. -/
theorem Evaluates.similar_of_plain (h : Evaluates places s row line next)
    (plain : AssignsNothing row line) (noId : row.id = 0) : s.Similar next where
  bindings n := by rw [h.bindings_eq, plain.assignment?_eq, Option.elim_none]
  references id := by rw [h.references_eq, identified?_of_id_zero noId, Option.elim_none]

/-- Above and below rows that change no more than the sum, all others have the same results. -/
theorem evaluateRows_replace (named : s.WellNamed) (noId : row.id = 0) (noId' : row'.id = 0)
    (noSum : ∀ row ∈ below, ¬ sumName <:+: row.text.take maxWidth)
    (h : evaluateRows places s (above ++ row :: below) = .ok (lines, next))
    (h' : evaluateRows places s (above ++ row' :: below) = .ok (lines', next'))
    (plain : ∀ x ∈ lines[above.length]?, AssignsNothing row x)
    (plain' : ∀ x ∈ lines'[above.length]?, AssignsNothing row' x) :
    ∀ i, i ≠ above.length → lines'[i]? = lines[i]? := by
  induction above generalizing s lines lines' with
  | nil =>
    obtain ⟨x, middle, others, evaluated, rest, rfl⟩ := evaluateRows_cons_eq_ok h
    obtain ⟨x', middle', others', evaluated', rest', rfl⟩ := evaluateRows_cons_eq_ok h'
    have here := evaluates_of_evaluateRow evaluated
    have here' := evaluates_of_evaluateRow evaluated'
    have before := here.similar_of_plain (plain x rfl) noId
    have before' := here'.similar_of_plain (plain' x' rfl) noId'
    have similar : middle.Similar middle' :=
      ⟨fun n => (before'.bindings n).trans (before.bindings n).symm,
        fun id => (before'.references id).trans (before.references id).symm⟩
    obtain ⟨rfl, -⟩ := evaluateRows_similar (here.wellNamed named) (here'.wellNamed named) similar
      noSum rest rest'
    intro i other
    cases i with
    | zero => exact absurd rfl other
    | succ i => rfl
  | cons first above ih =>
    obtain ⟨x, middle, others, evaluated, rest, rfl⟩ := evaluateRows_cons_eq_ok h
    obtain ⟨x', middle', others', evaluated', rest', rfl⟩ := evaluateRows_cons_eq_ok h'
    obtain ⟨rfl, rfl⟩ := Prod.mk.inj (Except.ok.inj (evaluated.symm.trans evaluated'))
    have same := ih ((evaluates_of_evaluateRow evaluated).wellNamed named) rest rest' plain plain'
    intro i other
    cases i with
    | zero => rfl
    | succ i => exact same i (fun equal => other (congrArg Nat.succ equal))

theorem getElem?_lines_set (h : ofRows places rows = .ok p)
    (h' : ofRows places (rows.set r row') = .ok p') (at_r : rows[r]? = some row)
    (noId : row.id = 0) (noId' : row'.id = 0)
    (noSum : ∀ row ∈ rows.drop (r + 1), ¬ sumName <:+: row.text.take maxWidth)
    (plain : ∀ x ∈ p.lines[r]?, AssignsNothing row x)
    (plain' : ∀ x ∈ p'.lines[r]?, AssignsNothing row' x) :
    ∀ i, i ≠ r → p'.lines[i]? = p.lines[i]? := by
  obtain ⟨⟨lines, last⟩, evaluated, done⟩ := bind_eq_ok h
  obtain rfl := Except.ok.inj done
  obtain ⟨⟨lines', last'⟩, evaluated', done'⟩ := bind_eq_ok h'
  obtain rfl := Except.ok.inj done'
  rw [List.take_set] at evaluated'
  have plainRows : ((rows.set r row').drop maxRows).map (fun _ => LineResult.plain [])
      = (rows.drop maxRows).map fun _ => LineResult.plain [] := by
    rw [List.map_const', List.map_const', List.length_drop, List.length_drop, List.length_set]
  have lengths : lines'.length = lines.length := by
    rw [length_evaluateRows evaluated, length_evaluateRows evaluated', List.length_set]
  suffices same : ∀ i, i ≠ r → lines'[i]? = lines[i]? by
    intro i other
    rw [plainRows, List.getElem?_append, List.getElem?_append, lengths, same i other]
  by_cases inside : r < (rows.take maxRows).length
  · have limit : r < maxRows := Nat.lt_of_lt_of_le inside (List.length_take_le _ _)
    have found : (rows.take maxRows)[r] = row := by
      rw [← Option.some.injEq, ← List.getElem?_eq_getElem, List.getElem?_take_of_lt limit, at_r]
    have place : ((rows.take maxRows).take r).length = r := List.length_take_of_le inside.le
    have whole : rows.take maxRows
        = (rows.take maxRows).take r ++ row :: (rows.take maxRows).drop (r + 1) := by
      rw [← found, ← List.drop_eq_getElem_cons inside, List.take_append_drop]
    rw [List.set_eq_take_append_cons_drop, if_pos inside] at evaluated'
    rw [whole] at evaluated
    have same := evaluateRows_replace State.wellNamed_initial noId noId'
      (fun row mem => noSum row (List.mem_of_mem_take (List.drop_take ▸ mem))) evaluated evaluated'
    rw [place] at same
    have left : r < lines.length := by
      rw [length_evaluateRows evaluated, ← whole]
      exact inside
    rw [List.getElem?_append_left left] at plain
    rw [List.getElem?_append_left (lengths ▸ left)] at plain'
    exact same plain plain'
  · rw [List.set_eq_of_length_le (Nat.le_of_not_lt inside)] at evaluated'
    obtain ⟨rfl, -⟩ := Prod.mk.inj (Except.ok.inj (evaluated.symm.trans evaluated'))
    exact fun _ _ => rfl

/-- Passes over rows that differ in one row, which assigns nothing and has no identifier, bind the
same behind the sum, if the other rows have the same results. -/
theorem bindings_set (h : ofRows places rows = .ok p)
    (h' : ofRows places (rows.set r row') = .ok p') (at_r : rows[r]? = some row)
    (noId : row.id = 0) (noId' : row'.id = 0) (plain : ∀ x ∈ p.lines[r]?, AssignsNothing row x)
    (plain' : ∀ x ∈ p'.lines[r]?, AssignsNothing row' x)
    (same : ∀ i, i ≠ r → p'.lines[i]? = p.lines[i]?) :
    (∃ total total' others, p.bindings = (sumName, total) :: others
        ∧ p'.bindings = (sumName, total') :: others)
      ∧ p'.references = p.references := by
  have pairs : ∀ i, i ≠ r → ((rows.set r row').zip p'.lines)[i]? = (rows.zip p.lines)[i]? := by
    intro i other
    rw [List.zip_eq_zipWith, List.zip_eq_zipWith, List.getElem?_zipWith, List.getElem?_zipWith,
      same i other, List.getElem?_set_ne (Ne.symm other)]
  have left : ∀ x ∈ (rows.zip p.lines)[r]?,
      assignment? x.1 x.2 = none ∧ identified? x.1 x.2 = none := by
    rintro ⟨_, line⟩ found
    obtain ⟨at_r', found⟩ := List.getElem?_zip_eq_some.1 found
    obtain rfl := Option.some.inj (at_r.symm.trans at_r')
    exact ⟨(plain line found).assignment?_eq, identified?_of_id_zero noId⟩
  have right : ∀ x ∈ ((rows.set r row').zip p'.lines)[r]?,
      assignment? x.1 x.2 = none ∧ identified? x.1 x.2 = none := by
    rintro ⟨_, line⟩ found
    obtain ⟨at_r', found⟩ := List.getElem?_zip_eq_some.1 found
    rw [List.getElem?_set_self (List.getElem?_eq_some_iff.1 at_r).1] at at_r'
    obtain rfl := Option.some.inj at_r'
    exact ⟨(plain' line found).assignment?_eq, identified?_of_id_zero noId'⟩
  have names : assignments ((rows.set r row').zip p'.lines) = assignments (rows.zip p.lines) :=
    filterMap_eq_of_getElem?_eq pairs (fun x found => (left x found).1)
      fun x found => (right x found).1
  have ids : identifiedResults ((rows.set r row').zip p'.lines)
      = identifiedResults (rows.zip p.lines) :=
    filterMap_eq_of_getElem?_eq pairs (fun x found => (left x found).2)
      fun x found => (right x found).2
  obtain ⟨⟨total, bindings⟩, references⟩ := bindings_eq_ofPairs h
  obtain ⟨⟨total', bindings'⟩, references'⟩ := bindings_eq_ofPairs h'
  rw [names] at bindings'
  rw [ids, ← references] at references'
  exact ⟨⟨total, total', _, bindings, bindings'⟩, references'⟩

end Pass

namespace Sheet

theorem rows_setLine {s s' : Sheet} {r : Nat} {t : Text} {row : Row}
    (edited : s.setLine r t = .ok s') (at_r : s.rows[r]? = some row) :
    s'.rows = s.rows.set r { row with text := t } ∧ s'.places = s.places := by
  rw [setLine, Edit.changed, Edit.setLine_on] at edited
  cases place : findRow s.texts.length r .noRowToEdit with
  | error fault =>
    rw [place] at edited
    cases edited
  | ok k =>
    rw [place] at edited
    obtain rfl := Except.ok.inj edited
    obtain rfl : k = r := by
      have found := (findRow_eq_ok.1 place).2
      rw [rowAt?, if_pos (Int.natCast_nonneg r)] at found
      split at found
      · exact (Option.some.inj found).symm
      · cases found
    obtain ⟨old, d, at_k, data, rfl⟩ := List.getElem?_zipWith_eq_some.1 at_r
    refine ⟨List.ext_getElem? fun i => ?_, rfl⟩
    rw [List.getElem?_set, rows, rows, List.getElem?_zipWith, List.getElem?_modify]
    by_cases here : k = i
    · subst here
      obtain ⟨left, rfl⟩ := List.getElem?_eq_some_iff.1 at_k
      obtain ⟨right, rfl⟩ := List.getElem?_eq_some_iff.1 data
      simp [left, right]
    · simp [here, List.getElem?_zipWith]

/-- When a line without identifier that assigns nothing is replaced by another one, and no line
below mentions the sum, all other lines keep their results, and the same is bound to all names but
the sum. A line assigns nothing if it does not begin with a name and an equals sign, or if it has no
result. -/
theorem evaluate_setLine {s s₁ s' s₁' : Sheet} {p p' : Pass} {r : Nat} {t : Text} {row : Row}
    (edited : s.setLine r t = .ok s') (evaluated : s.evaluate = .ok (p, s₁))
    (evaluated' : s'.evaluate = .ok (p', s₁')) (at_r : s.rows[r]? = some row) (noId : row.id = 0)
    (plain : ∀ line ∈ p.lines[r]?, Pass.AssignsNothing row line)
    (plain' : ∀ line ∈ p'.lines[r]?, Pass.AssignsNothing { row with text := t } line)
    (noSum : ∀ below ∈ s.rows.drop (r + 1), ¬ Pass.sumName <:+: below.text.take Pass.maxWidth) :
    (∀ i, i ≠ r → p'.lines[i]? = p.lines[i]?)
      ∧ (∃ total total' others, p.bindings = (Pass.sumName, total) :: others
          ∧ p'.bindings = (Pass.sumName, total') :: others)
      ∧ p'.references = p.references := by
  obtain ⟨passed, -⟩ := evaluate_eq_ok.1 evaluated
  obtain ⟨passed', -⟩ := evaluate_eq_ok.1 evaluated'
  obtain ⟨rows, places⟩ := rows_setLine edited at_r
  rw [rows, places] at passed'
  have noId' : ({ row with text := t } : Row).id = 0 := noId
  have same := Pass.getElem?_lines_set passed passed' at_r noId noId' noSum plain plain'
  exact ⟨same, Pass.bindings_set passed passed' at_r noId noId' plain plain' same⟩

/-- A number is replaced by a matrix, to which the results below cannot be added. -/
theorem evaluate_setLine_matrix :
    let s : Sheet := ⟨[['5'], ['x', '=', '2'], ['x', '*', '3']],
      [⟨0, .decimal⟩, ⟨1, .decimal⟩, ⟨0, .decimal⟩], 2, 4, none⟩
    ∃ s' p s₁ p' s₁', s.setLine 0 ['[', '1', ',', '2', ']'] = .ok s'
      ∧ s.evaluate = .ok (p, s₁) ∧ s'.evaluate = .ok (p', s₁')
      ∧ p'.bindings.lookup Pass.sumName ≠ p.bindings.lookup Pass.sumName
      ∧ (∀ i, i ≠ 0 → p'.lines[i]? = p.lines[i]?)
      ∧ (∃ total total' others, p.bindings = (Pass.sumName, total) :: others
          ∧ p'.bindings = (Pass.sumName, total') :: others)
      ∧ p'.references = p.references := by
  intro s
  let s' : Sheet := { s with texts := [['[', '1', ',', '2', ']'], ['x', '=', '2'],
    ['x', '*', '3']] }
  have edited : s.setLine (0 : Nat) ['[', '1', ',', '2', ']'] = .ok s' := by decide
  obtain ⟨⟨p, s₁⟩, evaluated, total⟩ : ∃ r, s.evaluate = .ok r
      ∧ (r.1.bindings.lookup Pass.sumName) = some (.number (.ofDecimal (.ofNat 13))) := by
    decide +kernel
  obtain ⟨⟨p', s₁'⟩, evaluated', total'⟩ : ∃ r, s'.evaluate = .ok r
      ∧ (r.1.bindings.lookup Pass.sumName) ≠ some (.number (.ofDecimal (.ofNat 13))) := by
    decide +kernel
  exact ⟨s', p, s₁, p', s₁', edited, evaluated, evaluated', total ▸ total',
    evaluate_setLine edited evaluated evaluated' rfl rfl (fun _ _ => .inl (by decide))
      (fun _ _ => .inl (by decide)) (by decide)⟩

end Sheet
end CalcSheet
