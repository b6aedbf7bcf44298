import CalcSheet.Proofs.Sheet.RunningSum
import CalcSheet.Proofs.Sheet.Runs

/-!
# Lines without a result

A line that has no result, whatever it has failed at, binds no name and no identifier and adds
nothing to the sum. So no other line can tell whether it is there, except from a line of dashes.
-/
namespace CalcSheet
namespace Pass

variable {places : Int} {s next : State} {row : Row} {rows : List Row} {line : LineResult}
  {lines : List LineResult} {p : Pass} {r : Nat}

/-- A row without a result leaves behind what it has found, if it is no line of dashes. -/
theorem Evaluates.next_eq (h : Evaluates places s row line next) (noResult : line.result = none)
    (noRestart : restartsSum row.text = false) : next = s := by
  rw [← restartsSum_take] at noRestart
  cases h with
  | textLine => rw [noRestart, if_neg Bool.false_ne_true]
  | withoutResult => rfl
  | withResult => exact nomatch noResult

theorem evaluateRows_eraseIdx (h : evaluateRows places s rows = .ok (lines, next))
    (at_r : rows[r]? = some row) (found : lines[r]? = some line) (noResult : line.result = none)
    (noRestart : restartsSum row.text = false) :
    evaluateRows places s (rows.eraseIdx r) = .ok (lines.eraseIdx r, next) := by
  induction rows generalizing s lines r with
  | nil => exact nomatch at_r
  | cons first rows ih =>
    obtain ⟨firstLine, middle, others, evaluated, rest, rfl⟩ := evaluateRows_cons_eq_ok h
    cases r with
    | zero =>
      obtain rfl := Option.some.inj at_r
      obtain rfl := Option.some.inj found
      obtain rfl := (evaluates_of_evaluateRow evaluated).next_eq noResult noRestart
      exact rest
    | succ r =>
      have erased := ih rest at_r found
      simp only [List.eraseIdx_cons_succ, evaluateRows, evaluated, erased, bind, Except.bind]
      rfl

theorem ofRows_eraseIdx (h : ofRows places rows = .ok p) (inside : rows.length ≤ maxRows)
    (at_r : rows[r]? = some row) (found : p.lines[r]? = some line) (noResult : line.result = none)
    (noRestart : restartsSum row.text = false) :
    ofRows places (rows.eraseIdx r) = .ok { p with lines := p.lines.eraseIdx r } := by
  obtain ⟨⟨lines, last⟩, evaluated, done⟩ := bind_eq_ok h
  obtain rfl := Except.ok.inj done
  have fewer : (rows.eraseIdx r).length ≤ maxRows :=
    Nat.le_trans (List.eraseIdx_sublist rows r).length_le inside
  simp only [List.take_of_length_le inside] at evaluated
  simp only [List.drop_of_length_le inside, List.map_nil, List.append_nil] at found ⊢
  rw [ofRows, List.take_of_length_le fewer, List.drop_of_length_le fewer,
    evaluateRows_eraseIdx evaluated at_r found noResult noRestart]
  simp [bind, Except.bind, pure, Except.pure]

/-- The bits of a pass say which rows have a result. -/
theorem testBit_resultBits (p : Pass) (i : Nat) : p.resultBits.testBit i = p.hasResult i := by
  obtain ⟨lines, bindings, references⟩ := p
  simp only [resultBits, hasResult]
  induction lines generalizing i with
  | nil => simp
  | cons line lines ih =>
    cases i with
    | zero => cases found : line.result <;> simp [Nat.testBit_zero, found]
    | succ i =>
      have half (n : Nat) : (2 * n + if line.result.isSome then 1 else 0) / 2 = n := by
        split <;> omega
      rw [List.foldr_cons, Nat.testBit_succ, half, ih]
      rfl

end Pass

namespace Sheet

theorem removeLine_eq_ok {s : Sheet} {r : Nat} (paired : s.Paired) (several : 2 ≤ s.texts.length)
    (index : IsIndex r) (bound : r < s.texts.length) :
    s.removeLine r
      = .ok { s with texts := s.texts.eraseIdx r, data := s.data.eraseIdx r } := by
  have place : findRow s.texts.length r .noRowToEdit = .ok r := findRow_natCast index bound
  have kept : s.texts.length ≠ 1 := by omega
  rw [removeLine, Edit.changed, Edit.removeLine_on r paired, place]
  simp only [Edit.without, if_neg kept]

/-- Removing a line that has no result and is no line of dashes changes nothing about the other
lines of a sheet that is evaluated as a whole: they keep their results, variables and references,
and the bits above move down by one place. -/
theorem evaluate_removeLine {s s₁ : Sheet} {p : Pass} {r : Nat} {row : Row}
    {line : LineResult} (paired : s.Paired) (several : 2 ≤ s.texts.length)
    (inside : s.texts.length ≤ Pass.maxRows) (evaluated : s.evaluate = .ok (p, s₁))
    (at_r : s.rows[r]? = some row) (found : p.lines[r]? = some line)
    (noResult : line.result = none) (noRestart : restartsSum row.text = false) :
    ∃ s₂ p' s₃, s₁.removeLine r = .ok s₂ ∧ s₂.evaluate = .ok (p', s₃)
      ∧ p'.lines = p.lines.eraseIdx r ∧ p'.bindings = p.bindings ∧ p'.references = p.references
      ∧ ∀ i, p'.resultBits.testBit i = p.resultBits.testBit (if i < r then i else i + 1) := by
  obtain ⟨passed, rfl⟩ := evaluate_eq_ok.1 evaluated
  have all := length_rows paired
  have bound : r < s.texts.length := all ▸ (List.getElem?_eq_some_iff.1 at_r).1
  have index : IsIndex r := by
    have limit : Pass.maxRows = 64 := rfl
    unfold IsIndex indexBound
    omega
  have again := Pass.ofRows_eraseIdx passed (all ▸ inside) at_r found noResult noRestart
  rw [← rows_eraseIdx paired] at again
  refine ⟨_, _, _, removeLine_eq_ok paired several index bound,
    evaluate_eq_ok.2 ⟨again, rfl⟩, rfl, rfl, rfl, fun i => ?_⟩
  rw [Pass.testBit_resultBits, Pass.testBit_resultBits, Pass.hasResult, Pass.hasResult,
    List.getElem?_eraseIdx]
  split <;> rfl

/-- The first row cannot be calculated; another one mentions its name and its identifier. -/
theorem evaluate_removeLine_division :
    let s : Sheet := ⟨[['x', '=', '1', '/', '0'], ['5'], ['x', '+', '&', '[', '3', ']'],
      ['s', 'u', 'm']], [⟨3, .decimal⟩, ⟨0, .decimal⟩, ⟨0, .decimal⟩, ⟨2, .decimal⟩],
      4, 4, none⟩
    ∃ p s₁ s₂ p' s₃, s.evaluate = .ok (p, s₁) ∧ p.resultBits = 0b1010
      ∧ s₁.removeLine 0 = .ok s₂ ∧ s₂.evaluate = .ok (p', s₃)
      ∧ p'.lines = p.lines.eraseIdx 0 ∧ p'.bindings = p.bindings ∧ p'.references = p.references
      ∧ ∀ i, p'.resultBits.testBit i = p.resultBits.testBit (i + 1) := by
  intro s
  obtain ⟨⟨p, s₁⟩, evaluated, bits, noResult⟩ : ∃ r, s.evaluate = .ok r
      ∧ r.1.resultBits = 0b1010 ∧ r.1.lines[0]?.map (·.result) = some none := by
    decide +kernel
  obtain ⟨line, found, noResult⟩ := Option.map_eq_some_iff.1 noResult
  obtain ⟨s₂, p', s₃, removed, again, lines, bindings, references, moved⟩ :=
    evaluate_removeLine (s := s) rfl (by decide) (by decide) evaluated rfl found noResult rfl
  exact ⟨p, s₁, s₂, p', s₃, evaluated, bits, removed, again, lines, bindings, references, moved⟩

end Sheet
end CalcSheet
