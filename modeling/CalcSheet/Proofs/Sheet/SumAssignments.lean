import CalcSheet.Proofs.Sheet.Consistency
import CalcSheet.Proofs.Sheet.RunningSum

/-!
# Assignments to the sum

A line that assigns to `sum` puts its result in the place of the sum, to which the result is then
added like any other. So it is counted twice, unless the sum had counted nothing before.
-/
namespace CalcSheet
open Value

namespace Pass

variable {places : Int} {s next : State} {row : Row} {rows : List Row} {line : LineResult}
  {lines : List LineResult} {p : Pass} {r : Nat} {v : Value} {vs : List Value}

/-- What the sum counts in the first `r` rows. -/
def counted (rows : List Row) (lines : List LineResult) (r : Nat) : List Value :=
  ((rows.zip lines).take r).foldl (fun vs x => count vs x.1 x.2) []

theorem counted_succ (at_r : rows[r]? = some row) (found : lines[r]? = some line) :
    counted rows lines (r + 1) = count (counted rows lines r) row line := by
  have last : (rows.zip lines)[r]? = some (row, line) := List.getElem?_zip_eq_some.2 ⟨at_r, found⟩
  rw [counted, List.take_add_one, last, Option.toList_some, List.foldl_concat]
  rfl

theorem count_eq_nil_iff : count vs row line = []
    ↔ restartsSum row.text = true ∨ (vs = [] ∧ line.result = none) := by
  unfold count
  cases restartsSum row.text with
  | true => simp
  | false =>
    cases line.result with
    | none => simp
    | some v =>
      simp only [Bool.false_eq_true, ↓reduceIte]
      split <;> simp

/-- The sum counts something as soon as there is a result since the last line of dashes. -/
theorem counted_eq_nil_iff : counted rows lines r = [] ↔ sinceRestart rows lines r = [] := by
  induction r with
  | zero => exact ⟨fun _ => rfl, fun _ => rfl⟩
  | succ r ih =>
    cases last : (rows.zip lines)[r]? with
    | none =>
      have same : (rows.zip lines).take (r + 1) = (rows.zip lines).take r := by
        rw [List.take_add_one, last, Option.toList_none, List.append_nil]
      simpa only [counted, sinceRestart, same] using ih
    | some x =>
      obtain ⟨at_r, found⟩ := List.getElem?_zip_eq_some.1 last
      rw [counted_succ at_r found, sinceRestart_succ at_r found, count_eq_nil_iff, ih]
      cases restartsSum x.1.text with
      | true => simp
      | false => cases x.2.result <;> simp

/-- At every row the sum is that of what it has counted. -/
theorem counts_stateBefore (passed : ofRows places rows = .ok p)
    (inside : r ≤ (rows.take maxRows).length) :
    ∃ s, stateBefore places rows r = .ok s ∧ Accumulates s.sum (counted rows p.lines r) := by
  refine stateBefore_invariant (motive := fun r s => Accumulates s.sum (counted rows p.lines r))
    passed rfl (fun _ at_r found evaluated held => ?_) inside
  rw [counted_succ at_r found]
  exact evaluated.counts held

theorem Evaluates.assignsSum (h : Evaluates places s row line next) (result : line.result = some v)
    (target : Assignment.target? (row.text.take maxWidth) = some sumName) :
    restartsSum row.text = false ∧ AssignsSum row line := by
  refine ⟨?_, h.isAssignment_iff.2 ⟨_, _, target, result⟩, target⟩
  rw [← restartsSum_take]
  cases h with
  | textLine => exact nomatch result
  | withoutResult => exact nomatch result
  | withResult kind =>
    rw [isTextLine, Bool.or_eq_false_iff] at kind
    exact kind.1

/-- A result that is assigned to a sum of nothing is counted once, any other one twice. -/
theorem Evaluates.sumOf_count (h : Evaluates places s row line next) (result : line.result = some v)
    (target : Assignment.target? (row.text.take maxWidth) = some sumName) :
    sumOf (count vs row line) = if vs = [] then .ok v else addOrZero v v := by
  obtain ⟨running, assigns⟩ := h.assignsSum result target
  simp only [count, running, result, Bool.false_eq_true, ↓reduceIte]
  by_cases empty : vs = []
  · rw [if_neg fun both => both.2 empty, if_pos empty, empty]
    rfl
  · rw [if_pos ⟨assigns, empty⟩, if_neg empty]
    exact bind_pure (addOrZero v v)

theorem State.valueOf?_sumName (s : State) :
    s.environment.valueOf? sumName = some (s.sum.getD .zero) := by
  rw [valueOf?_environment, if_pos rfl]

end Pass

/-- At every row `sum` stands for what it has counted so far. Right after a line that assigns to it,
this is the result of the line, if there was none before it since the last line of dashes, and the
result added to itself otherwise. -/
theorem Sheet.sum_after_assignment {s s' : Sheet} {p : Pass} (passed : s.evaluate = .ok (p, s')) :
    (∀ r ≤ (s.rows.take Pass.maxRows).length, ∃ before total,
      Pass.stateBefore s.places s.rows r = .ok before
        ∧ before.environment.valueOf? Pass.sumName = some total
        ∧ sumOf (Pass.counted s.rows p.lines r) = .ok total)
    ∧ ∀ r row line v, s.rows[r]? = some row → p.lines[r]? = some line → line.result = some v →
      Assignment.target? (row.text.take Pass.maxWidth) = some Pass.sumName →
      ∃ after total, Pass.stateBefore s.places s.rows (r + 1) = .ok after
        ∧ after.environment.valueOf? Pass.sumName = some total
        ∧ if Pass.sinceRestart s.rows p.lines r = [] then total = v
          else addOrZero v v = .ok total := by
  obtain ⟨rows, rfl⟩ := evaluate_eq_ok.1 passed
  refine ⟨fun r inside => ?_, fun r row line v at_r found result target => ?_⟩
  · obtain ⟨before, reached, accumulated⟩ := Pass.counts_stateBefore rows inside
    exact ⟨before, _, reached, before.valueOf?_sumName, accumulated.sumOf_eq⟩
  · have inside : r < (s.rows.take Pass.maxRows).length := by
      by_contra beyond
      rw [Pass.result_eq_none rows (Nat.le_of_not_lt beyond) found] at result
      exact nomatch result
    obtain ⟨before, reached, accumulated⟩ := Pass.counts_stateBefore rows (Nat.le_of_lt inside)
    -- the step at the row gives what is counted below it, of which the new sum is the total
    obtain ⟨_, _, after, at_r', found', evaluates, reached'⟩ :=
      Pass.evaluates_of_stateBefore rows inside reached
    obtain rfl := Option.some.inj (at_r.symm.trans at_r')
    obtain rfl := Option.some.inj (found.symm.trans found')
    have total := (evaluates.counts accumulated).sumOf_eq
    rw [evaluates.sumOf_count result target] at total
    refine ⟨after, _, reached', after.valueOf?_sumName, ?_⟩
    split
    · next none =>
      rw [if_pos (Pass.counted_eq_nil_iff.2 none)] at total
      exact (Except.ok.inj total).symm
    · next some => rwa [if_neg (mt Pass.counted_eq_nil_iff.1 some)] at total

/-- The first line finds nothing to add its result to; the second one adds its result to itself. -/
theorem Sheet.sum_after_assignment_twice :
    let s := ofContent ['s', 'u', 'm', '=', '5', '\n', 's', 'u', 'm', '=', '7'] 4
    let number (n : Nat) : Value := .number (.ofDecimal (.ofNat n))
    ∃ p s' first second, s.evaluate = .ok (p, s')
      ∧ Pass.stateBefore s.places s.rows 1 = .ok first
      ∧ first.environment.valueOf? Pass.sumName = some (number 5)
      ∧ Pass.stateBefore s.places s.rows 2 = .ok second
      ∧ second.environment.valueOf? Pass.sumName = some (number 14) := by
  intro s number
  obtain ⟨⟨p, s'⟩, evaluated, results, before⟩ : ∃ r, s.evaluate = .ok r
      ∧ r.1.lines.map (·.result) = [some (number 5), some (number 7)]
      ∧ Pass.sinceRestart s.rows r.1.lines 1 ≠ [] := by
    decide +kernel
  have result (i : Nat) : p.lines[i]?.map (·.result)
      = [some (number 5), some (number 7)][i]? := by
    rw [← results, List.getElem?_map]
  obtain ⟨line, found, five⟩ := Option.map_eq_some_iff.1 (result 0)
  obtain ⟨line', found', seven⟩ := Option.map_eq_some_iff.1 (result 1)
  obtain ⟨-, assigned⟩ := sum_after_assignment evaluated
  obtain ⟨first, _, reached, value, once⟩ := assigned 0 _ line _ rfl found five (by decide)
  obtain ⟨second, _, reached', value', twice⟩ :=
    assigned 1 _ line' _ rfl found' seven (by decide)
  have none : Pass.sinceRestart s.rows p.lines 0 = [] := rfl
  have sum : addOrZero (number 7) (number 7) = .ok (number 14) := by decide +kernel
  rw [if_pos none] at once
  rw [if_neg before, sum] at twice
  exact ⟨p, s', first, second, evaluated, reached, once ▸ value, reached',
    Except.ok.inj twice ▸ value'⟩

/-- After an assignment the sum need not be the result, nor the sum before with the result added. -/
theorem Sheet.not_forall_sums :
    ¬ ∀ (s s' : Sheet) (p : Pass) (r : Nat) (row : Row) (line : LineResult) (v : Value),
      s.evaluate = .ok (p, s') → s.rows[r]? = some row → p.lines[r]? = some line →
      line.result = some v →
      Assignment.target? (row.text.take Pass.maxWidth) = some Pass.sumName →
      ∃ before after old total, Pass.stateBefore s.places s.rows r = .ok before
        ∧ before.environment.valueOf? Pass.sumName = some old
        ∧ Pass.stateBefore s.places s.rows (r + 1) = .ok after
        ∧ after.environment.valueOf? Pass.sumName = some total
        ∧ (total = v ∨ addOrZero old v = .ok total) := by
  intro always
  let s := ofContent ['1', '\n', 's', 'u', 'm', '=', '5'] 4
  let number (n : Nat) : Value := .number (.ofDecimal (.ofNat n))
  obtain ⟨⟨p, s'⟩, evaluated, result⟩ : ∃ r, s.evaluate = .ok r
      ∧ r.1.lines[1]?.map (·.result) = some (some (number 5)) := by decide +kernel
  obtain ⟨line, found, five⟩ := Option.map_eq_some_iff.1 result
  obtain ⟨above, aboveReached, one⟩ : ∃ state, Pass.stateBefore s.places s.rows 1 = .ok state
      ∧ state.environment.valueOf? Pass.sumName = some (number 1) := by decide +kernel
  obtain ⟨below, belowReached, ten⟩ : ∃ state, Pass.stateBefore s.places s.rows 2 = .ok state
      ∧ state.environment.valueOf? Pass.sumName = some (number 10) := by decide +kernel
  obtain ⟨before, after, old, total, reached, value, reached', value', sum⟩ :=
    always s s' p 1 _ line _ evaluated rfl found five (by decide)
  obtain rfl := Except.ok.inj (aboveReached.symm.trans reached)
  obtain rfl := Except.ok.inj (belowReached.symm.trans reached')
  obtain rfl := Option.some.inj (one.symm.trans value)
  obtain rfl := Option.some.inj (ten.symm.trans value')
  revert sum
  decide +kernel

end CalcSheet
