import CalcSheet.Proofs.Success
import CalcSheet.Sheet.Basic

/-!
# The rows of a pass

What the evaluation of one row can come to, and the states between the rows of a pass.
-/
namespace CalcSheet
namespace Pass

variable {places : Int} {s s' next : State} {row : Row} {rows : List Row} {line : LineResult}
  {lines : List LineResult} {p : Pass}

/-- A row that is evaluated is plain text, or a calculation without a result, or one whose result
has been recorded and displayed. -/
inductive Evaluates (places : Int) (s : State) (row : Row) : LineResult → State → Prop
  | textLine {tokens : List Token} (kind : isTextLine (row.text.take maxWidth) = true)
      (scanned : Token.scan (row.text.take maxWidth) [] = .ok tokens) :
      Evaluates places s row (.plain tokens)
        (if restartsSum (row.text.take maxWidth) then { s with sum := none } else s)
  | withoutResult {tokens : List Token} (kind : isTextLine (row.text.take maxWidth) = false)
      (calculated : Line.evaluate s.environment s.environment.knownNames (row.text.take maxWidth)
        = .ok (tokens, none)) :
      Evaluates places s row (.plain tokens) s
  | withResult {tokens : List Token} {o : Outcome} {shown : Displayed} {next : State}
      (kind : isTextLine (row.text.take maxWidth) = false)
      (calculated : Line.evaluate s.environment s.environment.knownNames (row.text.take maxWidth)
        = .ok (tokens, some o))
      (recorded : s.record
        (if o.isAssignment then Assignment.target? (row.text.take maxWidth) else none) row.id
          o.result = .ok next)
      (displayed : Line.display row.base places o = .ok shown) :
      Evaluates places s row ⟨some o.result, shown, tokens, o.isAssignment⟩ next

theorem evaluates_of_evaluateRow (h : evaluateRow places s row = .ok (line, next)) :
    Evaluates places s row line next := by
  unfold evaluateRow at h
  dsimp only at h
  cases kind : isTextLine (row.text.take maxWidth) with
  | true =>
    rw [if_pos kind] at h
    obtain ⟨tokens, scanned, done⟩ := bind_eq_ok h
    obtain ⟨rfl, rfl⟩ := Prod.mk.inj (Except.ok.inj done)
    exact .textLine kind (mapError_eq_ok scanned)
  | false =>
    rw [if_neg (by simp [kind])] at h
    obtain ⟨⟨tokens, outcome?⟩, calculated, h⟩ := bind_eq_ok h
    cases outcome? with
    | none =>
      obtain ⟨rfl, rfl⟩ := Prod.mk.inj (Except.ok.inj h)
      exact .withoutResult kind calculated
    | some o =>
      obtain ⟨_, recorded, h⟩ := bind_eq_ok h
      obtain ⟨shown, displayed, h⟩ := bind_eq_ok h
      obtain ⟨_, -, done⟩ := bind_eq_ok h
      obtain ⟨rfl, rfl⟩ := Prod.mk.inj (Except.ok.inj done)
      exact .withResult kind calculated (mapError_eq_ok recorded) displayed

/-! ### States between rows -/

theorem evaluateRows_append (places : Int) (s : State) (rows rows' : List Row) :
    evaluateRows places s (rows ++ rows') = (do
      let (lines, s) ← evaluateRows places s rows
      let (lines', s) ← evaluateRows places s rows'
      pure (lines ++ lines', s)) := by
  induction rows generalizing s with
  | nil =>
    change _ = (evaluateRows places s rows' >>= fun r => pure (r.1, r.2))
    rw [bind_pure]
    rfl
  | cons row rows ih =>
    simp only [List.cons_append, evaluateRows, ih, bind_assoc, pure_bind]

theorem evaluateRows_cons_eq_ok (h : evaluateRows places s (row :: rows) = .ok (lines, next)) :
    ∃ line middle others, evaluateRow places s row = .ok (line, middle)
      ∧ evaluateRows places middle rows = .ok (others, next) ∧ lines = line :: others := by
  obtain ⟨⟨line, middle⟩, first, h⟩ := bind_eq_ok h
  obtain ⟨⟨others, last⟩, rest, done⟩ := bind_eq_ok h
  obtain ⟨rfl, rfl⟩ := Prod.mk.inj (Except.ok.inj done)
  exact ⟨line, middle, others, first, rest, rfl⟩

theorem length_evaluateRows (h : evaluateRows places s rows = .ok (lines, next)) :
    lines.length = rows.length := by
  induction rows generalizing s lines with
  | nil =>
    obtain ⟨rfl, -⟩ := Prod.mk.inj (Except.ok.inj h)
    rfl
  | cons row rows ih =>
    obtain ⟨line, middle, others, -, rest, rfl⟩ := evaluateRows_cons_eq_ok h
    rw [List.length_cons, List.length_cons, ih rest]

/-- The rows before a place are evaluated by themselves, with the same results. -/
theorem evaluateRows_take (h : evaluateRows places s rows = .ok (lines, next)) (r : Nat) :
    ∃ before, evaluateRows places s (rows.take r) = .ok (lines.take r, before)
      ∧ evaluateRows places before (rows.drop r) = .ok (lines.drop r, next) := by
  induction rows generalizing s lines r with
  | nil =>
    obtain ⟨rfl, rfl⟩ := Prod.mk.inj (Except.ok.inj h)
    exact ⟨s, by rw [List.take_nil, List.take_nil]; rfl, by rw [List.drop_nil, List.drop_nil]; rfl⟩
  | cons row rows ih =>
    cases r with
    | zero => exact ⟨s, rfl, h⟩
    | succ r =>
      obtain ⟨line, middle, others, first, rest, rfl⟩ := evaluateRows_cons_eq_ok h
      obtain ⟨before, above, below⟩ := ih rest r
      refine ⟨before, ?_, below⟩
      simp only [List.take_succ_cons, evaluateRows, first, above, bind, Except.bind]
      rfl

/-- What the rows above a place have left behind. Rows past the limit leave nothing. -/
def stateBefore (places : Int) (rows : List Row) (r : Nat) : Except LineFault State :=
  Prod.snd <$> evaluateRows places .initial ((rows.take maxRows).take r)

theorem stateBefore_zero (places : Int) (rows : List Row) :
    stateBefore places rows 0 = .ok .initial := rfl

/-- Each row is evaluated in the state that the rows above it leave behind. -/
theorem evaluates_of_stateBefore (h : ofRows places rows = .ok p) {r : Nat}
    (inside : r < (rows.take maxRows).length) (before : stateBefore places rows r = .ok s) :
    ∃ row line next, rows[r]? = some row ∧ p.lines[r]? = some line
      ∧ Evaluates places s row line next ∧ stateBefore places rows (r + 1) = .ok next := by
  obtain ⟨⟨lines, last⟩, evaluated, done⟩ := bind_eq_ok h
  obtain rfl := Except.ok.inj done
  have length := length_evaluateRows evaluated
  obtain ⟨s', above, below⟩ := evaluateRows_take evaluated r
  obtain ⟨⟨_, _⟩, above', rfl⟩ := map_eq_ok before
  obtain ⟨-, rfl⟩ := Prod.mk.inj (Except.ok.inj (above'.symm.trans above))
  have found : r < lines.length := Nat.lt_of_lt_of_eq inside length.symm
  rw [List.drop_eq_getElem_cons inside, List.drop_eq_getElem_cons found] at below
  obtain ⟨line, middle, others, first, -, same⟩ := evaluateRows_cons_eq_ok below
  obtain ⟨rfl, -⟩ := List.cons.inj same
  refine ⟨_, _, middle, ?_, ?_, evaluates_of_evaluateRow first, ?_⟩
  · rw [List.getElem_take, List.getElem?_eq_getElem]
  · rw [List.getElem?_append_left found, List.getElem?_eq_getElem]
  · rw [stateBefore, List.take_add_one, List.getElem?_eq_getElem inside, evaluateRows_append, above]
    simp only [Option.toList, evaluateRows, bind, Except.bind, first]
    rfl

/-- What holds before the first row, and after each row if it did before it, holds all along a
pass. -/
theorem stateBefore_invariant {motive : Nat → State → Prop} (h : ofRows places rows = .ok p)
    (initial : motive 0 .initial)
    (step : ∀ {r : Nat} {row : Row} {line : LineResult} {s next : State}, r < maxRows →
      rows[r]? = some row → p.lines[r]? = some line → Evaluates places s row line next →
      motive r s → motive (r + 1) next)
    {r : Nat} (inside : r ≤ (rows.take maxRows).length) :
    ∃ s, stateBefore places rows r = .ok s ∧ motive r s := by
  induction r with
  | zero => exact ⟨.initial, stateBefore_zero places rows, initial⟩
  | succ r ih =>
    obtain ⟨s, before, held⟩ := ih (Nat.le_of_succ_le inside)
    obtain ⟨row, line, next, at_r, found, evaluated, after⟩ :=
      evaluates_of_stateBefore h inside before
    have limit : r < maxRows := Nat.lt_of_lt_of_le inside (List.length_take_le _ _)
    exact ⟨next, after, step limit at_r found evaluated held⟩

theorem exists_stateBefore (h : ofRows places rows = .ok p) {r : Nat}
    (inside : r ≤ (rows.take maxRows).length) : ∃ s, stateBefore places rows r = .ok s := by
  obtain ⟨s, before, -⟩ := stateBefore_invariant (motive := fun _ _ => True) h trivial
    (fun _ _ _ _ _ => trivial) inside
  exact ⟨s, before⟩

/-- What holds after a row, and after each row below if it did before it, holds at all places below
the row. -/
theorem stateBefore_since {motive : State → Prop} (h : ofRows places rows = .ok p) {i j : Nat}
    (order : i < j) (inside : j ≤ (rows.take maxRows).length)
    (before : stateBefore places rows j = .ok s)
    (begins : ∀ {row : Row} {line : LineResult} {s next : State}, rows[i]? = some row →
      p.lines[i]? = some line → Evaluates places s row line next → motive next)
    (step : ∀ {r : Nat} {row : Row} {line : LineResult} {s next : State}, i < r → r < j →
      rows[r]? = some row → p.lines[r]? = some line → Evaluates places s row line next →
      motive s → motive next) : motive s := by
  obtain ⟨s', before', held⟩ : ∃ s', stateBefore places rows j = .ok s'
      ∧ (i < j → j ≤ j → motive s') := by
    refine stateBefore_invariant (motive := fun r s => i < r → r ≤ j → motive s) h nofun
      (fun _ at_r found evaluated held after within => ?_) inside
    rcases Nat.lt_succ_iff_lt_or_eq.1 after with between | rfl
    · exact step between within at_r found evaluated (held between (Nat.le_of_lt within))
    · exact begins at_r found evaluated
  obtain rfl := Except.ok.inj (before.symm.trans before')
  exact held order (Nat.le_refl j)

/-- What the last row leaves behind is what the pass ends with. -/
theorem bindings_of_stateBefore (h : ofRows places rows = .ok p)
    (last : stateBefore places rows (rows.take maxRows).length = .ok s) :
    p.bindings = s.allBindings ∧ p.references = s.references := by
  obtain ⟨⟨lines, end_⟩, evaluated, done⟩ := bind_eq_ok h
  obtain rfl := Except.ok.inj done
  rw [stateBefore, List.take_length, evaluated] at last
  obtain rfl := Except.ok.inj last
  exact ⟨rfl, rfl⟩

/-- Rows past the limit are not evaluated. -/
theorem getElem?_lines_of_le (h : ofRows places rows = .ok p) {r : Nat}
    (beyond : (rows.take maxRows).length ≤ r) :
    p.lines[r]? = rows[r]?.map fun _ => .plain [] := by
  obtain ⟨⟨lines, last⟩, evaluated, done⟩ := bind_eq_ok h
  obtain rfl := Except.ok.inj done
  have length := length_evaluateRows evaluated
  have later : (rows.take maxRows ++ rows.drop maxRows)[r]?
      = (rows.drop maxRows)[r - (rows.take maxRows).length]? := List.getElem?_append_right beyond
  rw [List.take_append_drop] at later
  rw [List.getElem?_append_right (Nat.le_trans (Nat.le_of_eq length) beyond), List.getElem?_map,
    length, later]

/-- Rows that are not evaluated have no results. -/
theorem result_eq_none (h : ofRows places rows = .ok p) {r : Nat}
    (beyond : (rows.take maxRows).length ≤ r) (found : p.lines[r]? = some line) :
    line.result = none := by
  rw [getElem?_lines_of_le h beyond] at found
  obtain ⟨row, -, rfl⟩ := Option.map_eq_some_iff.1 found
  rfl

theorem lt_length_of_result (h : ofRows places rows = .ok p) {r : Nat} {v : Value}
    (found : p.lines[r]? = some line) (result : line.result = some v) :
    r < (rows.take maxRows).length := by
  by_contra beyond
  exact nomatch (result_eq_none h (Nat.le_of_not_lt beyond) found).symm.trans result

/-- A row with a result has been evaluated. -/
theorem exists_evaluates (h : ofRows places rows = .ok p) {r : Nat} {v : Value}
    (at_r : rows[r]? = some row) (found : p.lines[r]? = some line)
    (result : line.result = some v) : ∃ s next, Evaluates places s row line next := by
  have inside := lt_length_of_result h found result
  obtain ⟨s, before⟩ := exists_stateBefore h (Nat.le_of_lt inside)
  obtain ⟨_, _, next, at_r', found', evaluated, -⟩ := evaluates_of_stateBefore h inside before
  obtain rfl := Option.some.inj (at_r.symm.trans at_r')
  obtain rfl := Option.some.inj (found.symm.trans found')
  exact ⟨s, next, evaluated⟩

theorem length_lines (h : ofRows places rows = .ok p) : p.lines.length = rows.length := by
  obtain ⟨⟨lines, last⟩, evaluated, done⟩ := bind_eq_ok h
  obtain rfl := Except.ok.inj done
  rw [List.length_append, List.length_map, length_evaluateRows evaluated, ← List.length_append,
    List.take_append_drop]

end Pass

/-- A sheet that has been evaluated keeps the pass over its rows and is otherwise as before. -/
theorem Sheet.evaluate_eq_ok {s s' : Sheet} {p : Pass} :
    s.evaluate = .ok (p, s')
      ↔ Pass.ofRows s.places s.rows = .ok p ∧ s' = { s with pass? := some p } := by
  constructor
  · intro evaluated
    obtain ⟨p, passed, done⟩ := bind_eq_ok evaluated
    obtain ⟨rfl, rfl⟩ := Prod.mk.inj (Except.ok.inj done)
    exact ⟨mapError_eq_ok passed, rfl⟩
  · rintro ⟨passed, rfl⟩
    rw [evaluate, passed]
    rfl

end CalcSheet
