import CalcSheet.Proofs.Sheet.Passes

/-!
# What a row depends on

Of a row above it a row can see no more than the characters within the width and the identifier. So
its result is settled by the rows down to it: the rows below, what is beyond the width of a line and
the bases of other rows make no difference.
-/
namespace CalcSheet

/-- What the rows below can see of a row. -/
def Row.visible (row : Row) : Text × LineId := (row.text.take Pass.maxWidth, row.id)

namespace Pass

variable {places : Int} {s s' next next' : State} {row row' : Row} {rows rows' : List Row}
  {line line' : LineResult} {lines lines' : List LineResult} {p p' : Pass} {r : Nat}

/-- Rows that look the same from below, and are calculated in the same way where they are, have the
same result if their bases are the same, and leave the same behind if they have found the same,
whatever their bases are. -/
theorem Evaluates.unique (h : Evaluates places s row line next)
    (h' : Evaluates places s' row' line' next') (same : row'.visible = row.visible)
    (calculation : Line.evaluate s'.environment s'.environment.knownNames (row.text.take maxWidth)
      = Line.evaluate s.environment s.environment.knownNames (row.text.take maxWidth)) :
    (row'.base = row.base → line' = line) ∧ (s' = s → next' = next) := by
  obtain ⟨text, id⟩ := Prod.mk.inj same
  cases h with
  | textLine kind scanned =>
    cases h' with
    | textLine kind' scanned' =>
      rw [text, scanned] at scanned'
      obtain rfl := Except.ok.inj scanned'
      refine ⟨fun _ => rfl, ?_⟩
      rintro rfl
      rw [text]
    | withoutResult kind' | withResult kind' =>
      rw [text, kind] at kind'
      exact nomatch kind'
  | withoutResult kind calculated =>
    cases h' with
    | textLine kind' =>
      rw [text, kind] at kind'
      exact nomatch kind'
    | withoutResult kind' calculated' =>
      rw [text, calculation, calculated] at calculated'
      obtain ⟨rfl, -⟩ := Prod.mk.inj (Except.ok.inj calculated')
      exact ⟨fun _ => rfl, fun found => found⟩
    | withResult kind' calculated' =>
      rw [text, calculation, calculated] at calculated'
      exact nomatch (Prod.mk.inj (Except.ok.inj calculated')).2
  | withResult kind calculated recorded displayed =>
    cases h' with
    | textLine kind' =>
      rw [text, kind] at kind'
      exact nomatch kind'
    | withoutResult kind' calculated' =>
      rw [text, calculation, calculated] at calculated'
      exact nomatch (Prod.mk.inj (Except.ok.inj calculated')).2
    | withResult kind' calculated' recorded' displayed' =>
      rw [text, calculation, calculated] at calculated'
      obtain ⟨rfl, result⟩ := Prod.mk.inj (Except.ok.inj calculated')
      obtain rfl := Option.some.inj result
      constructor
      · intro base
        rw [base, displayed] at displayed'
        rw [Except.ok.inj displayed']
      · rintro rfl
        rw [text, id, recorded] at recorded'
        exact (Except.ok.inj recorded').symm

/-- Rows that look the same from below leave the same behind, one after the other. -/
theorem evaluateRows_unique (same : rows'.map Row.visible = rows.map Row.visible)
    (h : evaluateRows places s rows = .ok (lines, next))
    (h' : evaluateRows places s rows' = .ok (lines', next')) : next' = next := by
  induction rows generalizing s rows' lines lines' with
  | nil =>
    obtain rfl := List.map_eq_nil_iff.1 same
    obtain ⟨-, rfl⟩ := Prod.mk.inj (Except.ok.inj h)
    obtain ⟨-, rfl⟩ := Prod.mk.inj (Except.ok.inj h')
    rfl
  | cons row rows ih =>
    obtain ⟨row', others, rfl, first, rest⟩ := List.map_eq_cons_iff.1 same
    obtain ⟨line, middle, _, evaluated, later, -⟩ := evaluateRows_cons_eq_ok h
    obtain ⟨line', middle', _, evaluated', later', -⟩ := evaluateRows_cons_eq_ok h'
    obtain rfl := ((evaluates_of_evaluateRow evaluated).unique
      (evaluates_of_evaluateRow evaluated') first rfl).2 rfl
    exact ih rest later later'

/-- Two passes over rows that look the same down to a place agree on what is left behind there. -/
theorem stateBefore_unique (h : stateBefore places rows r = .ok s)
    (h' : stateBefore places rows' r = .ok next)
    (above : (rows'.take r).map Row.visible = (rows.take r).map Row.visible) : next = s := by
  obtain ⟨⟨lines, _⟩, evaluated, rfl⟩ := map_eq_ok h
  obtain ⟨⟨lines', _⟩, evaluated', rfl⟩ := map_eq_ok h'
  refine evaluateRows_unique ?_ evaluated evaluated'
  rw [List.take_take, List.take_take, Nat.min_comm, ← List.take_take, ← List.take_take,
    List.map_take, above, ← List.map_take]

/-- A row has the same result in two passes over rows that look the same from below down to it, if
its own base is the same. -/
theorem getElem?_lines_unique (passed : ofRows places rows = .ok p)
    (passed' : ofRows places rows' = .ok p')
    (above : ∀ i ≤ r, rows'[i]?.map Row.visible = rows[i]?.map Row.visible)
    (base : rows'[r]?.map (·.base) = rows[r]?.map (·.base)) : p'.lines[r]? = p.lines[r]? := by
  have same := above r (Nat.le_refl r)
  have inside_iff : r < (rows'.take maxRows).length ↔ r < (rows.take maxRows).length := by
    have both : rows'.length ≤ r ↔ rows.length ≤ r := by
      rw [← List.getElem?_eq_none_iff, ← List.getElem?_eq_none_iff,
        ← Option.map_eq_none_iff (f := Row.visible), same, Option.map_eq_none_iff]
    rw [List.length_take, List.length_take]
    omega
  by_cases inside : r < (rows.take maxRows).length
  · obtain ⟨s, before⟩ := exists_stateBefore passed (Nat.le_of_lt inside)
    obtain ⟨s', before'⟩ := exists_stateBefore passed' (Nat.le_of_lt (inside_iff.2 inside))
    have rowsAbove : (rows'.take r).map Row.visible = (rows.take r).map Row.visible := by
      refine List.ext_getElem? fun i => ?_
      rw [List.getElem?_map, List.getElem?_map, List.getElem?_take, List.getElem?_take]
      split
      · next before => exact above i (Nat.le_of_lt before)
      · rfl
    obtain rfl := stateBefore_unique before before' rowsAbove
    obtain ⟨row, line, next, at_r, found, evaluated, -⟩ :=
      evaluates_of_stateBefore passed inside before
    obtain ⟨row', line', next', at_r', found', evaluated', -⟩ :=
      evaluates_of_stateBefore passed' (inside_iff.2 inside) before'
    rw [at_r, at_r'] at same base
    rw [found, found',
      (evaluated.unique evaluated' (Option.some.inj same) rfl).1 (Option.some.inj base)]
  · rw [getElem?_lines_of_le passed (Nat.not_lt.1 inside),
      getElem?_lines_of_le passed' (Nat.not_lt.1 fun inside' => inside (inside_iff.1 inside'))]
    have plain := congrArg (Option.map fun _ => LineResult.plain []) same
    rwa [Option.map_map, Option.map_map] at plain

end Pass

/-- In two sheets with the same places, a row has the same result if the rows down to it have the
same identifiers and the same characters within the width, and its own base is the same. -/
theorem Sheet.lineResult_eq_of_above {s s' s₁ s₁' : Sheet} {p p' : Pass} {r : Nat}
    (places : s'.places = s.places)
    (above : ∀ i ≤ r, s'.rows[i]?.map Row.visible = s.rows[i]?.map Row.visible)
    (base : s'.rows[r]?.map (·.base) = s.rows[r]?.map (·.base))
    (evaluated : s.evaluate = .ok (p, s₁)) (evaluated' : s'.evaluate = .ok (p', s₁')) :
    p'.lines[r]? = p.lines[r]? ∧ s₁'.hasResult r = s₁.hasResult r := by
  obtain ⟨passed, rfl⟩ := evaluate_eq_ok.1 evaluated
  obtain ⟨passed', rfl⟩ := evaluate_eq_ok.1 evaluated'
  rw [places] at passed'
  have lines := Pass.getElem?_lines_unique passed passed' above base
  refine ⟨lines, ?_⟩
  simp only [hasResult, Pass.hasResult, Int.toNat_natCast, lines]

/-- The second row refers to the first one; beyond the width of that one stands something else. -/
theorem Sheet.lineResult_eq_of_above_reference :
    let spaces := List.replicate 119 ' '
    let s : Sheet := ⟨['2' :: spaces, ['&', '[', '7', ']', '*', '3'], ['1']],
      [⟨7, .decimal⟩, ⟨0, .hexadecimal⟩, ⟨0, .decimal⟩], 8, 4, none⟩
    let s' : Sheet := ⟨['2' :: spaces ++ ['+', '5'], ['&', '[', '7', ']', '*', '3'], ['s']],
      [⟨7, .binary⟩, ⟨0, .hexadecimal⟩, ⟨9, .decimal⟩], 10, 4, none⟩
    (∀ i ≤ 1, s'.rows[i]?.map Row.visible = s.rows[i]?.map Row.visible)
    ∧ s'.rows[1]?.map (·.base) = s.rows[1]?.map (·.base)
    ∧ ∃ p s₁ p' s₁', s.evaluate = .ok (p, s₁) ∧ s'.evaluate = .ok (p', s₁')
      ∧ p'.lines[1]? = p.lines[1]? ∧ s₁'.hasResult 1 = s₁.hasResult 1 := by
  intro spaces s s'
  have above : ∀ i ≤ 1, s'.rows[i]?.map Row.visible = s.rows[i]?.map Row.visible := by decide
  have base : s'.rows[1]?.map (·.base) = s.rows[1]?.map (·.base) := by decide
  obtain ⟨⟨p, s₁⟩, evaluated, -⟩ : ∃ r, s.evaluate = .ok r ∧ True := by decide +kernel
  obtain ⟨⟨p', s₁'⟩, evaluated', -⟩ : ∃ r, s'.evaluate = .ok r ∧ True := by decide +kernel
  exact ⟨above, base, p, s₁, p', s₁', evaluated, evaluated',
    lineResult_eq_of_above (show s'.places = s.places from rfl) above base evaluated evaluated'⟩

end CalcSheet
