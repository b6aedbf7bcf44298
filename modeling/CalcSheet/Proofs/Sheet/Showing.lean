import CalcSheet.Proofs.Display.Shown
import CalcSheet.Proofs.Evaluation.Range
import CalcSheet.Proofs.Sheet.Passes

/-!
# Passes and the display of their results

All numbers of a pass are in the exponent range, and have far fewer digits than it has places. So
displaying a result aborts a pass only where a quantity overflows on the way to a derived unit, has
become infinite, or has a unit that cannot be written.
-/
namespace CalcSheet

theorem Line.evaluate_ne_display {env : Environment} {names : List KnownName}
    {t : Text} {cause : DisplayFault} : Line.evaluate env names t ≠ .error (.display cause) := by
  intro failed
  obtain ⟨tokens, -, failed⟩ := mapError_bind_eq_error (by simp) failed
  obtain ⟨outcome?, -, failed⟩ := mapError_bind_eq_error (by simp) failed
  cases failed

namespace Pass

variable {p : Quantity → Prop} {places : Int} {s next : State} {row : Row} {rows : List Row}
  {line : LineResult} {lines : List LineResult} {v : Value} {fault : LineFault} {r : Nat}

/-! ### Numbers of a pass -/

/-- The sum, the variables and the results of the lines are of one kind. -/
structure State.Holds (p : Quantity → Prop) (s : State) : Prop where
  sum : ∀ v ∈ s.sum, v.Holds p
  bindings : ∀ b ∈ s.bindings, b.2.Holds p
  references : ∀ r ∈ s.references, r.2.Holds p

namespace State

theorem holds_initial : State.initial.Holds p :=
  ⟨by simp [initial], List.forall_mem_nil _, List.forall_mem_nil _⟩

theorem Holds.total (h : s.Holds p) (zero : p .zero) : (s.sum.getD .zero).Holds p := by
  cases sum : s.sum with
  | none => exact zero
  | some total => exact h.sum total sum

theorem Holds.environment (h : s.Holds p) (zero : p .zero) : s.environment.Holds p := by
  constructor
  · intro b mem v value
    obtain ⟨⟨name, w⟩, inside, rfl⟩ := List.mem_map.1 mem
    obtain rfl := Option.some.inj value
    rcases List.mem_cons.1 inside with same | inside
    · obtain ⟨-, rfl⟩ := Prod.mk.inj same
      exact h.total zero
    · exact h.bindings _ inside
  · intro b mem v value
    obtain ⟨⟨id, w⟩, inside, rfl⟩ := List.mem_map.1 mem
    obtain rfl := Option.some.inj value
    exact h.references _ inside

/-- A sum of values of one kind is one; where there is none, the sum goes on from zero. -/
theorem holds_of_extendSum {invertible : Quantity → Prop} {unit : Option PhysicalUnit → Prop}
    {f : Fault → Prop} {sum : Option Value} {total : Value}
    (arithmetic : CellOperations p invertible unit f) (free : ∀ q, invertible q) (zero : p .zero)
    (before : ∀ v ∈ sum, v.Holds p) (h : v.Holds p) (extended : extendSum sum v = .ok total) :
    total.Holds p := by
  cases sum with
  | none => exact Except.ok.inj extended ▸ h
  | some old =>
    obtain ⟨next?, added, same⟩ := bind_eq_ok extended
    obtain rfl := Except.ok.inj same
    cases next? with
    | none => exact zero
    | some total =>
      have yields := arithmetic.binary .add (before old rfl) h (fun q _ => free q) fun q _ => free q
      refine yields.ok ?_
      unfold Value.sum? at added
      split at added
      · next w sum =>
        obtain rfl := Option.some.inj (Except.ok.inj added)
        exact sum
      · split at added <;> cases added

/-- Recording a value keeps the kind of the values that a state has. -/
theorem Holds.record {invertible : Quantity → Prop} {unit : Option PhysicalUnit → Prop}
    {f : Fault → Prop} {target? : Option Text} {id : LineId}
    (arithmetic : CellOperations p invertible unit f) (free : ∀ q, invertible q) (zero : p .zero)
    (h : s.Holds p) (hv : v.Holds p) (recorded : s.record target? id v = .ok next) :
    next.Holds p := by
  obtain ⟨total, extended, done⟩ := bind_eq_ok recorded
  obtain rfl := Except.ok.inj done
  have bound {κ : Type} [DecidableEq κ] {key : κ} {xs : List (κ × Value)}
      (each : ∀ b ∈ xs, b.2.Holds p) : ∀ b ∈ Bindings.bind key v xs, b.2.Holds p := by
    intro b mem
    rcases Bindings.mem_of_mem_bind mem with rfl | mem
    · exact hv
    · exact each b mem
  refine ⟨fun w same => ?_, ?_, ?_⟩
  · obtain rfl := Option.some.inj same
    refine holds_of_extendSum arithmetic free zero (fun old mem => ?_) hv extended
    split at mem
    · obtain ⟨_, -, rfl⟩ := Option.map_eq_some_iff.1 mem
      exact hv
    · exact h.sum old mem
  · dsimp only
    split
    · split
      · exact h.bindings
      · exact bound h.bindings
    · exact h.bindings
  · dsimp only
    split
    · exact h.references
    · exact bound h.references

end State

/-- How many digits a number of a pass can have. -/
def maxDigits : Nat := 2 * maxWidth

theorem zero_isWithin : Quantity.IsWithin maxDigits .zero :=
  Decimal.isWithin_zero (by decide) false (by decide)

/-- The numbers that a row calculates are in the exponent range, if those above are. -/
theorem result_isWithin {tokens : List Token} {o : Outcome}
    (h : s.Holds (Quantity.IsWithin maxDigits))
    (evaluated : Line.evaluate s.environment s.environment.knownNames (row.text.take maxWidth)
      = .ok (tokens, some o)) : o.result.Holds (Quantity.IsWithin maxDigits) :=
  Line.result_isWithin (by decide) (by decide)
    (Nat.mul_le_mul_left 2 (List.length_take_le _ _)) (h.environment zero_isWithin) evaluated

/-- What a row leaves behind is of one kind, if its result is. -/
theorem Evaluates.holds {invertible : Quantity → Prop} {unit : Option PhysicalUnit → Prop}
    {f : Fault → Prop} (arithmetic : CellOperations p invertible unit f)
    (free : ∀ q, invertible q) (zero : p .zero) (h : Evaluates places s row line next)
    (before : s.Holds p)
    (result : ∀ tokens o, Line.evaluate s.environment s.environment.knownNames
      (row.text.take maxWidth) = .ok (tokens, some o) → o.result.Holds p) : next.Holds p := by
  cases h with
  | textLine =>
    split
    · exact ⟨by simp, before.bindings, before.references⟩
    · exact before
  | withoutResult => exact before
  | withResult kind calculated recorded displayed =>
    exact before.record arithmetic free zero (result _ _ calculated) recorded

/-- Whatever the rows are, the numbers that they leave behind are in the exponent range. -/
theorem holds_of_evaluateRows (evaluated : evaluateRows places s rows = .ok (lines, next))
    (before : s.Holds (Quantity.IsWithin maxDigits)) :
    next.Holds (Quantity.IsWithin maxDigits) := by
  induction rows generalizing s lines with
  | nil =>
    obtain ⟨-, rfl⟩ := Prod.mk.inj (Except.ok.inj evaluated)
    exact before
  | cons row rows ih =>
    obtain ⟨line, middle, others, first, rest, -⟩ := evaluateRows_cons_eq_ok evaluated
    refine ih rest ((evaluates_of_evaluateRow first).holds (cellOperations_isWithin (by decide))
      (fun _ => trivial) zero_isWithin before fun _ _ => result_isWithin before)

theorem holds_of_stateBefore (reached : stateBefore places rows r = .ok s) :
    s.Holds (Quantity.IsWithin maxDigits) := by
  obtain ⟨⟨lines, _⟩, evaluated, rfl⟩ := map_eq_ok reached
  exact holds_of_evaluateRows evaluated State.holds_initial

/-! ### Rows that abort a pass -/

/-- A pass that is aborted has a first row that cannot be evaluated. -/
theorem exists_of_evaluateRows (failed : evaluateRows places s rows = .error fault) :
    ∃ r row before lines, rows[r]? = some row
      ∧ evaluateRows places s (rows.take r) = .ok (lines, before)
      ∧ evaluateRow places before row = .error fault := by
  induction rows generalizing s with
  | nil => cases failed
  | cons row rows ih =>
    rcases bind_eq_error failed with failed | ⟨⟨line, middle⟩, first, failed⟩
    · exact ⟨0, row, s, [], rfl, rfl, failed⟩
    · rcases bind_eq_error failed with failed | ⟨_, -, failed⟩
      · obtain ⟨r, row', before, lines, found, above, failed⟩ := ih failed
        refine ⟨r + 1, row', before, line :: lines, found, ?_, failed⟩
        simp only [List.take_succ_cons, evaluateRows, first, above, bind, Except.bind]
        rfl
      · cases failed

theorem exists_of_ofRows (failed : ofRows places rows = .error fault) :
    ∃ r row before, r < maxRows ∧ rows[r]? = some row ∧ stateBefore places rows r = .ok before
      ∧ evaluateRow places before row = .error fault := by
  rcases bind_eq_error failed with failed | ⟨_, -, failed⟩
  · obtain ⟨r, row, before, lines, found, above, failed⟩ := exists_of_evaluateRows failed
    rw [List.getElem?_take] at found
    split at found
    · next short =>
      refine ⟨r, row, before, short, found, ?_, failed⟩
      rw [stateBefore, above]
      rfl
    · cases found
  · cases failed

/-- What displaying aborts is a row with a result that cannot be displayed. -/
theorem exists_of_evaluateRow {cause : DisplayFault}
    (failed : evaluateRow places s row = .error (.display cause)) :
    ∃ tokens o, Line.evaluate s.environment s.environment.knownNames (row.text.take maxWidth)
        = .ok (tokens, some o)
      ∧ Displayed.ofValue row.base o.converted places o.result = .error cause := by
  unfold evaluateRow at failed
  dsimp only at failed
  split at failed
  · obtain ⟨tokens, -, failed⟩ := mapError_bind_eq_error (by simp) failed
    cases failed
  · rcases bind_eq_error failed with failed | ⟨⟨tokens, outcome?⟩, evaluated, failed⟩
    · exact absurd failed Line.evaluate_ne_display
    · cases outcome? with
      | none => cases failed
      | some o =>
        obtain ⟨_, -, failed⟩ := mapError_bind_eq_error (by simp) failed
        rcases bind_eq_error failed with failed | ⟨shown, -, failed⟩
        · obtain ⟨_, broken, same⟩ := mapError_eq_error failed
          obtain rfl := LineFault.display.inj same
          exact ⟨tokens, o, evaluated, broken⟩
        · obtain ⟨_, -, failed⟩ := mapError_bind_eq_error (by simp) failed
          cases failed

/-! ### What is displayed -/

/-- A row whose calculation has the outcome `o`, in the state that the rows above it leave. -/
def Calculates (places : Int) (rows : List Row) (row : Row) (o : Outcome) : Prop :=
  ∃ r s tokens, r < maxRows ∧ rows[r]? = some row ∧ stateBefore places rows r = .ok s
    ∧ Line.evaluate s.environment s.environment.knownNames (row.text.take maxWidth)
      = .ok (tokens, some o)

/-- Between none and a thousand places, a value in the exponent range is displayed just if each
quantity that is written out for it does not overflow on the way to a derived unit, is not rounded
out of the exponent range and has a unit that can be written. Displaying a result aborts a pass only
where such a quantity overflows, is infinite or has a unit that cannot be written. -/
theorem displays (nonneg : 0 ≤ places) (few : places ≤ 1000) :
    (∀ base converted v, (∀ q ∈ v.cells, q.IsInRange) →
      ((∃ shown, Displayed.ofValue base converted places v = .ok shown) ↔
        ∀ r? ∈ Displayed.quantities converted v,
          ∃ r, r? = .ok r ∧ r.value.StaysInRange (base.places places) ∧ r.IsWritable)
      ∧ ∀ cause, Displayed.ofValue base converted places v = .error cause → cause.IsExtreme)
    ∧ ∀ rows, (∀ row o, Calculates places rows row o →
        ∀ r? ∈ Displayed.quantities o.converted o.result,
          ∃ r, r? = .ok r ∧ r.value.IsFinite ∧ r.IsWritable) →
      ∀ cause, ofRows places rows ≠ .error (.display cause) := by
  constructor
  · intro base converted v inRange
    have shown := Displayed.ofValue_succeedsIff base converted nonneg few inRange
    exact ⟨shown.exists_ok_iff, fun cause failed => shown.error failed⟩
  · intro rows written cause failed
    obtain ⟨r, row, s, limit, found, reached, failed⟩ := exists_of_ofRows failed
    obtain ⟨tokens, o, evaluated, failed⟩ := exists_of_evaluateRow failed
    have numbers := result_isWithin (holds_of_stateBefore reached) evaluated
    have within : ∀ q ∈ o.result.cells, q.value.IsWithin 1000000 := fun q mem =>
      (numbers.cells q mem).mono (by decide)
    obtain ⟨shown, displayed⟩ := Displayed.ofValue_of_isWithin row.base nonneg few within
      (written row o ⟨r, s, tokens, limit, found, reached, evaluated⟩)
    cases displayed.symm.trans failed

/-- A thousand newtons as a product of other units. -/
def kilonewton : PhysicalUnit :=
  ⟨⟨1, 1, -2, 0, 0, 0, 0, 0⟩, .finite ⟨false, 1000, 0⟩,
    [(['k', 'g'], 1), (['k', 'm'], 1), (['s'], -2)]⟩

/-- A force is displayed in newtons, and so is a matrix of a length and the force. -/
theorem displays_newtons :
    (0 : Int) ≤ 2 ∧ (2 : Int) ≤ 1000
      ∧ (∃ shown, Displayed.ofValue .decimal false 2
        (.number ⟨.finite ⟨false, 25, -1⟩, some kilonewton⟩) = .ok shown)
      ∧ ∀ cause, ofRows 2 [⟨"[3 ft, 2.5 kg*km/s^2]".toList, 0, .decimal⟩]
        ≠ .error (.display cause) := by
  obtain ⟨values, passes⟩ := @displays 2 (by decide) (by decide)
  refine ⟨by decide, by decide, (values .decimal false _ ?_).1.2 (by decide +kernel), passes _ ?_⟩
  · intro q mem
    obtain rfl := List.mem_singleton.1 mem
    exact ⟨by decide, by decide⟩
  · rintro row o ⟨r, s, tokens, limit, found, reached, evaluated⟩
    obtain rfl : r = 0 := by simpa using (List.getElem?_eq_some_iff.1 found).1
    obtain rfl := Option.some.inj found
    obtain rfl := Except.ok.inj reached
    have written : ∀ result, Line.evaluate State.initial.environment
          State.initial.environment.knownNames ("[3 ft, 2.5 kg*km/s^2]".toList.take maxWidth)
          = .ok result → ∀ o ∈ result.2, ∀ r? ∈ Displayed.quantities o.converted o.result,
            ∃ r, r? = .ok r ∧ r.value.IsFinite ∧ r.IsWritable := by decide +kernel
    exact written _ evaluated o rfl

/-- Not all results are displayed: twice the largest power of ten, in kilonewtons written as
`kg*km/s^2`, is too many newtons. -/
theorem not_forall_displayed :
    (¬ ∀ (base : Numeral.Base) (converted : Bool) (places : Int) (v : Value), 0 ≤ places →
        places ≤ 1000 → (∀ q ∈ v.cells, q.IsInRange) →
        ∃ shown, Displayed.ofValue base converted places v = .ok shown)
      ∧ ¬ ∀ (places : Int) (rows : List Row), 0 ≤ places → places ≤ 1000 →
        (∀ row ∈ rows, ∃ tokens, Token.scan row.text [] = .ok tokens) →
        ∀ cause, ofRows places rows ≠ .error (.display cause) := by
  constructor
  · intro always
    have inRange : ∀ q ∈ Value.cells (.number ⟨.finite ⟨false, 2, 999999⟩, some kilonewton⟩),
        q.IsInRange := by
      intro q mem
      obtain rfl := List.mem_singleton.1 mem
      exact ⟨by decide, by decide⟩
    obtain ⟨shown, displayed⟩ := always .decimal false 2 _ (by decide) (by decide) inRange
    have fails : (Displayed.ofValue .decimal false 2 (.number
        ⟨.finite ⟨false, 2, 999999⟩, some kilonewton⟩)).toBool = false := by decide +kernel
    rw [displayed] at fails
    cases fails
  · intro always
    refine always 2 [⟨"(2 kg*km/s^2)*10^999999".toList, 0, .decimal⟩] (by decide) (by decide) ?_
      (.signal .overflow) (by decide +kernel)
    have succeeds : (Token.scan "(2 kg*km/s^2)*10^999999".toList []).toBool = true := by
      decide +kernel
    refine List.forall_mem_singleton.2 ?_
    cases scanned : Token.scan "(2 kg*km/s^2)*10^999999".toList [] with
    | error fault =>
      rw [scanned] at succeeds
      cases succeeds
    | ok tokens => exact ⟨tokens, rfl⟩

end Pass
end CalcSheet
