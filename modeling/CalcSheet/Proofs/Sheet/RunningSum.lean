import CalcSheet.Proofs.Lists
import CalcSheet.Proofs.Sheet.Passes
import CalcSheet.Sheet.Selection
import Mathlib.Data.List.DropRight

/-!
# The running sum

At every row `sum` stands for the results above it, back to the last line of dashes, added up from
top to bottom; where two of them cannot be added, the sum goes on from zero. The sum of a selection
adds up the same results in the same order, but gives up at the first addition that fails.
-/
namespace CalcSheet

namespace Value

/-- A total with one more result; if they cannot be added, the total is zero again. -/
def addOrZero (total v : Value) : Except Breakdown Value := do
  let next? ← total.sum? v
  pure (next?.getD .zero)

/-- Results added up from the first on; without any the sum is zero. -/
def sumOf : List Value → Except Breakdown Value
  | [] => .ok .zero
  | v :: vs => vs.foldlM addOrZero v

/-- Among the results is one that cannot be added to the sum of those before it. -/
def SumFails (vs : List Value) : Prop :=
  ∃ done v rest total, vs = done ++ v :: rest ∧ done ≠ [] ∧ sumOf done = .ok total
    ∧ total.sum? v = .ok none

theorem sumOf_append {vs : List Value} (nonempty : vs ≠ []) (ws : List Value) :
    sumOf (vs ++ ws) = sumOf vs >>= fun total => ws.foldlM addOrZero total := by
  obtain ⟨v, vs, rfl⟩ := List.exists_cons_of_ne_nil nonempty
  exact List.foldlM_append

end Value

open Value

/-! ### Selections -/

/-- A selection is added up from a total that is the sum of the results before it. -/
theorem Sheet.totalFrom_eq {done vs : List Value} {total final : Value} (nonempty : done ≠ [])
    (before : sumOf done = .ok total) (all : sumOf (done ++ vs) = .ok final) :
    ∃ answer?, totalFrom total vs = .ok answer? ∧ (∀ answer ∈ answer?, answer = final)
      ∧ (answer? = none ↔ ∃ middle v rest reached, vs = middle ++ v :: rest
          ∧ sumOf (done ++ middle) = .ok reached ∧ reached.sum? v = .ok none) := by
  induction vs generalizing done total with
  | nil =>
    rw [List.append_nil, before] at all
    obtain rfl := Except.ok.inj all
    exact ⟨some total, rfl, by simp, by simp⟩
  | cons v vs ih =>
    have step := sumOf_append nonempty (v :: vs)
    rw [all, before] at step
    obtain ⟨reached, added, -⟩ := bind_eq_ok (show addOrZero total v >>= _ = _ from step.symm)
    obtain ⟨next?, summed, done'⟩ := bind_eq_ok added
    obtain rfl := Except.ok.inj done'
    cases next? with
    | none =>
      have answered : totalFrom total (v :: vs) = .ok none := by
        rw [totalFrom, summed]
        rfl
      refine ⟨none, answered, by simp, ⟨fun _ => ?_, fun _ => rfl⟩⟩
      exact ⟨[], v, vs, total, rfl, by rw [List.append_nil, before], summed⟩
    | some next =>
      have through : sumOf (done ++ [v]) = .ok next := by
        rw [sumOf_append nonempty, before]
        change addOrZero total v >>= pure = _
        rw [bind_pure, added]
        rfl
      obtain ⟨answer?, answered, final_eq, fails⟩ := ih (by simp) through (by simpa using all)
      refine ⟨answer?, by rw [totalFrom, summed]; exact answered, final_eq, fails.trans ⟨?_, ?_⟩⟩
      · rintro ⟨middle, w, rest, reached, rfl, sum, fault⟩
        exact ⟨v :: middle, w, rest, reached, rfl, by simpa using sum, fault⟩
      · rintro ⟨middle, w, rest, reached, split, sum, fault⟩
        cases middle with
        | nil =>
          obtain ⟨rfl, -⟩ := List.cons.inj split
          rw [List.append_nil, before] at sum
          obtain rfl := Except.ok.inj sum
          rw [summed] at fault
          exact nomatch fault
        | cons u middle =>
          obtain ⟨rfl, rfl⟩ := List.cons.inj split
          exact ⟨middle, w, rest, reached, rfl, by simpa using sum, fault⟩

/-- Selected results have the same sum as a pass gives them, or none: without any results, and where
one of them cannot be added. -/
theorem Sheet.total_eq {vs : List Value} {final : Value} (all : sumOf vs = .ok final) :
    ∃ answer?, total vs = .ok answer? ∧ (∀ answer ∈ answer?, answer = final)
      ∧ (answer? = none ↔ vs = [] ∨ SumFails vs) := by
  cases vs with
  | nil => exact ⟨none, rfl, by simp, by simp⟩
  | cons v vs =>
    obtain ⟨answer?, answered, final_eq, fails⟩ :=
      totalFrom_eq (List.cons_ne_nil v []) rfl (show sumOf ([v] ++ vs) = .ok final from all)
    refine ⟨answer?, answered, final_eq, fails.trans ⟨?_, ?_⟩⟩
    · rintro ⟨middle, w, rest, reached, rfl, sum, fault⟩
      exact .inr ⟨v :: middle, w, rest, reached, rfl, by simp, sum, fault⟩
    · rintro (empty | ⟨done, w, rest, reached, split, nonempty, sum, fault⟩)
      · exact nomatch empty
      · obtain ⟨u, middle, rfl⟩ := List.exists_cons_of_ne_nil nonempty
        obtain ⟨rfl, rfl⟩ := List.cons.inj split
        exact ⟨middle, w, rest, reached, rfl, sum, fault⟩

namespace Pass

variable {places : Int} {s next : State} {row : Row} {rows : List Row} {line : LineResult}
  {lines : List LineResult} {p : Pass} {r first : Nat} {vs : List Value}

/-! ### Results since a line of dashes -/

/-- The results in the first `r` rows that come after their last line of dashes. -/
def sinceRestart (rows : List Row) (lines : List LineResult) (r : Nat) : List Value :=
  (((rows.zip lines).take r).rtakeWhile fun x => !restartsSum x.1.text).filterMap (·.2.result)

theorem sinceRestart_succ (at_r : rows[r]? = some row) (found : lines[r]? = some line) :
    sinceRestart rows lines (r + 1)
      = if restartsSum row.text then [] else sinceRestart rows lines r ++ line.result.toList := by
  have last : (rows.zip lines)[r]? = some (row, line) := List.getElem?_zip_eq_some.2 ⟨at_r, found⟩
  rw [sinceRestart, List.take_add_one, last, Option.toList_some, List.rtakeWhile_concat]
  cases restartsSum row.text with
  | true => rfl
  | false => cases result : line.result <;> simp [sinceRestart, result]

theorem restartsSum_take (t : Text) : restartsSum (t.take maxWidth) = restartsSum t := by
  rcases t with _ | ⟨c, _ | ⟨d, t⟩⟩ <;> rfl

/-! ### The sum of a pass -/

/-- The sum of a state is that of the results since the last line of dashes. -/
def Accumulates (sum : Option Value) (vs : List Value) : Prop :=
  match sum with
  | none => vs = []
  | some total => vs ≠ [] ∧ sumOf vs = .ok total

theorem Accumulates.sumOf_eq {sum : Option Value} (h : Accumulates sum vs) :
    sumOf vs = .ok (sum.getD .zero) := by
  cases sum with
  | none =>
    obtain rfl : vs = [] := h
    rfl
  | some total => exact h.2

theorem Accumulates.extendSum {sum : Option Value} {v total : Value} (h : Accumulates sum vs)
    (extended : State.extendSum sum v = .ok total) : Accumulates (some total) (vs ++ [v]) := by
  refine ⟨by simp, ?_⟩
  cases sum with
  | none =>
    obtain rfl : vs = [] := h
    exact extended
  | some before =>
    have added : addOrZero before v = .ok total := extended
    rw [sumOf_append h.1, h.2]
    change addOrZero before v >>= pure = _
    rw [bind_pure, added]

/-- The row assigns its result to the sum. -/
def AssignsSum (row : Row) (line : LineResult) : Prop :=
  line.isAssignment = true ∧ Assignment.target? (row.text.take maxWidth) = some sumName

instance (row : Row) (line : LineResult) : Decidable (AssignsSum row line) :=
  inferInstanceAs (Decidable (_ ∧ _))

/-- What the sum counts after a row: nothing after a line of dashes, otherwise the result of the row
as well. Where a result is assigned to a sum that counted something, it is counted twice and takes
the place of all before it. -/
def count (vs : List Value) (row : Row) (line : LineResult) : List Value :=
  if restartsSum row.text then []
  else match line.result with
    | none => vs
    | some v => if AssignsSum row line ∧ vs ≠ [] then [v, v] else vs ++ [v]

theorem count_of_not_assignsSum (unassigned : ¬ AssignsSum row line) :
    count vs row line = if restartsSum row.text then [] else vs ++ line.result.toList := by
  unfold count
  cases line.result <;> simp [unassigned]

/-- A row changes the sum as it changes what the sum counts. -/
theorem Evaluates.counts (h : Evaluates places s row line next) (before : Accumulates s.sum vs) :
    Accumulates next.sum (count vs row line) := by
  rw [count, ← restartsSum_take]
  cases h with
  | textLine kind scanned =>
    split
    · rfl
    · exact before
  | withoutResult kind calculated =>
    rw [isTextLine, Bool.or_eq_false_iff] at kind
    rw [kind.1]
    exact before
  | @withResult tokens o shown next kind calculated recorded displayed =>
    rw [isTextLine, Bool.or_eq_false_iff] at kind
    obtain ⟨total, extended, done⟩ := bind_eq_ok recorded
    obtain rfl := Except.ok.inj done
    have target : (if o.isAssignment then Assignment.target? (row.text.take maxWidth) else none)
        = some sumName ↔ AssignsSum row ⟨some o.result, shown, tokens, o.isAssignment⟩ := by
      unfold AssignsSum
      cases o.isAssignment <;> simp
    simp only [kind.1, Bool.false_eq_true, ↓reduceIte]
    by_cases assigns : AssignsSum row ⟨some o.result, shown, tokens, o.isAssignment⟩
    · rw [if_pos (target.2 assigns)] at extended
      cases sum : s.sum with
      | none =>
        rw [sum] at extended before
        have empty : vs = [] := before
        rw [if_neg fun both => both.2 empty]
        exact before.extendSum extended
      | some old =>
        rw [sum] at extended before
        rw [if_pos ⟨assigns, before.1⟩]
        have once : Accumulates (some o.result) [o.result] := ⟨List.cons_ne_nil _ _, rfl⟩
        exact once.extendSum extended
    · rw [if_neg (mt target.1 assigns)] at extended
      rw [if_neg fun both => assigns both.1]
      exact before.extendSum extended

/-- A row that does not assign to the sum leaves it alone, adds its result or starts it again. -/
theorem Evaluates.accumulates (h : Evaluates places s row line next)
    (unassigned : line.isAssignment = true →
      Assignment.target? (row.text.take maxWidth) ≠ some sumName)
    (before : Accumulates s.sum vs) :
    Accumulates next.sum (if restartsSum row.text then [] else vs ++ line.result.toList) := by
  rw [← count_of_not_assignsSum fun assigns => unassigned assigns.1 assigns.2]
  exact h.counts before

/-- No line of the pass assigns to the sum. -/
def LeavesSum (rows : List Row) (lines : List LineResult) : Prop :=
  ∀ x ∈ rows.zip lines, x.2.isAssignment = true →
    Assignment.target? (x.1.text.take maxWidth) ≠ some sumName

instance {rows : List Row} {lines : List LineResult} : Decidable (LeavesSum rows lines) :=
  inferInstanceAs (Decidable (∀ _ ∈ _, _))

theorem accumulates_stateBefore (passed : ofRows places rows = .ok p)
    (unassigned : LeavesSum rows p.lines) (inside : r ≤ (rows.take maxRows).length) :
    ∃ s, stateBefore places rows r = .ok s ∧ Accumulates s.sum (sinceRestart rows p.lines r) := by
  refine stateBefore_invariant
    (motive := fun r s => Accumulates s.sum (sinceRestart rows p.lines r)) passed rfl
    (fun _ at_r found evaluated held => ?_) inside
  rw [sinceRestart_succ at_r found]
  have both : (rows.zip p.lines)[_]? = some (_, _) := List.getElem?_zip_eq_some.2 ⟨at_r, found⟩
  exact evaluated.accumulates (unassigned _ (List.mem_of_getElem? both)) held

/-! ### Results of a selection -/

/-- A place among the rows that is the first one or comes after a line of dashes, and after which no
line of dashes is evaluated. -/
structure LastRestart (rows : List Row) (first : Nat) : Prop where
  begins : first = 0 ∨ ∃ row, rows[first - 1]? = some row ∧ restartsSum row.text = true
  last : ∀ r row, first ≤ r → r < maxRows → rows[r]? = some row → restartsSum row.text = false

/-- A selection that reaches down to the last evaluated row leaves no results out. -/
theorem filterMap_result_take (passed : ofRows places rows = .ok p) {k : Nat}
    (covers : (rows.take maxRows).length ≤ first + k) :
    ((p.lines.drop first).take k).filterMap (·.result)
      = (p.lines.drop first).filterMap (·.result) := by
  have none : ((p.lines.drop first).drop k).filterMap (·.result) = [] := by
    rw [List.filterMap_eq_nil_iff]
    intro line mem
    obtain ⟨i, found⟩ := List.mem_iff_getElem?.1 mem
    rw [List.drop_drop, List.getElem?_drop] at found
    exact result_eq_none passed (by omega) found
  conv_rhs => rw [← List.take_append_drop k (p.lines.drop first), List.filterMap_append, none,
    List.append_nil]

theorem sinceRestart_eq (passed : ofRows places rows = .ok p) (restart : LastRestart rows first)
    (inside : first ≤ (rows.take maxRows).length) :
    sinceRestart rows p.lines (rows.take maxRows).length
      = (p.lines.drop first).filterMap (·.result) := by
  have length := length_lines passed
  generalize count : (rows.take maxRows).length = n at inside
  have bound : n ≤ rows.length ∧ n ≤ maxRows := by
    rw [← count, List.length_take]
    omega
  let pairs := rows.zip p.lines
  have entries {i : Nat} {x : Row × LineResult} (found : pairs[i]? = some x) :
      rows[i]? = some x.1 := (List.getElem?_zip_eq_some.1 found).1
  have split : pairs.take n = pairs.take first ++ (pairs.take n).drop first := by
    conv_lhs => rw [← List.take_append_drop first (pairs.take n), List.take_take,
      Nat.min_eq_left inside]
  have inner : ∀ x ∈ (pairs.take n).drop first, (!restartsSum x.1.text) = true := by
    intro x mem
    obtain ⟨i, found⟩ := List.mem_iff_getElem?.1 mem
    rw [List.getElem?_drop, List.getElem?_take] at found
    split at found
    · next before =>
      rw [restart.last (first + i) x.1 (by omega) (by omega) (entries found)]
      rfl
    · exact nomatch found
  have stop : ∀ x ∈ (pairs.take first).getLast?, (!restartsSum x.1.text) = false := by
    intro x mem
    rcases restart.begins with rfl | ⟨row, at_, restarts⟩
    · exact nomatch mem
    · have here : first - 1 < pairs.length := by
        rw [List.length_zip]
        have := (List.getElem?_eq_some_iff.1 at_).1
        omega
      rw [List.getLast?_take, List.getElem?_eq_getElem here] at mem
      split at mem
      · exact nomatch mem
      · obtain rfl := Option.some.inj mem
        obtain rfl := Option.some.inj (at_.symm.trans (entries (List.getElem?_eq_getElem here)))
        rw [restarts]
        rfl
  have lines : ((pairs.take n).drop first).map Prod.snd
      = (p.lines.drop first).take (n - first) := by
    rw [List.map_drop, List.map_take, List.map_snd_zip (Nat.le_of_eq length), List.drop_take]
  rw [sinceRestart, split, rtakeWhile_append_of_stop inner stop,
    ← filterMap_result_take passed (k := n - first) (by omega), ← lines, List.filterMap_map]
  rfl

theorem sumRows_results (passed : ofRows places rows = .ok p) {last : Int}
    (covers : ((rows.take maxRows).length : Int) ≤ last + 1) :
    (Sheet.slice p.lines first (last + 1)).filterMap (·.result)
      = (p.lines.drop first).filterMap (·.result) := by
  have nonneg : 0 ≤ last + 1 := by omega
  rw [Sheet.slice]
  simp only [Int.natCast_nonneg, ↓reduceIte, nonneg, Int.toNat_natCast]
  exact filterMap_result_take passed (by omega)

end Pass

/-- In a pass in which no line assigns to `sum`, this name stands at every row, and at the end, for
the sum of the results since the last line of dashes. Where all of them are selected afterwards,
their sum is that of the pass, or there is none: without any results, and where one of them cannot
be added. -/
theorem Sheet.runningSum_eq_sumOf {s s' : Sheet} {p : Pass} (passed : s.evaluate = .ok (p, s'))
    (unassigned : Pass.LeavesSum s.rows p.lines) :
    (∀ r ≤ (s.rows.take Pass.maxRows).length, ∃ before total,
      Pass.stateBefore s.places s.rows r = .ok before
        ∧ before.environment.valueOf? Pass.sumName = some total
        ∧ sumOf (Pass.sinceRestart s.rows p.lines r) = .ok total)
    ∧ ∃ total, p.bindings.head? = some (Pass.sumName, total)
      ∧ sumOf (Pass.sinceRestart s.rows p.lines (s.rows.take Pass.maxRows).length) = .ok total
      ∧ ∀ (first : Nat) (last : Int), Pass.LastRestart s.rows first →
        ((s.rows.take Pass.maxRows).length : Int) ≤ last + 1 →
        ∃ answer?, s'.sumRows first last = (.ok answer?, s')
          ∧ (∀ answer ∈ answer?, answer = total)
          ∧ (answer? = none ↔ (p.lines.drop first).filterMap (·.result) = []
            ∨ SumFails ((p.lines.drop first).filterMap (·.result))) := by
  obtain ⟨p, evaluated, done⟩ := bind_eq_ok passed
  obtain ⟨rfl, rfl⟩ := Prod.mk.inj (Except.ok.inj done)
  have rows := mapError_eq_ok evaluated
  refine ⟨fun r inside => ?_, ?_⟩
  · obtain ⟨before, reached, accumulated⟩ := Pass.accumulates_stateBefore rows unassigned inside
    refine ⟨before, before.sum.getD .zero, reached, ?_, accumulated.sumOf_eq⟩
    simp [Pass.State.environment, Pass.State.allBindings, Environment.valueOf?]
  · obtain ⟨final, reached, accumulated⟩ :=
      Pass.accumulates_stateBefore rows unassigned (Nat.le_refl _)
    have bindings := (Pass.bindings_of_stateBefore rows reached).1
    refine ⟨final.sum.getD .zero, by rw [bindings]; rfl, accumulated.sumOf_eq, ?_⟩
    intro first last restart covers
    have selected : (slice p.lines first (last + 1)).filterMap (·.result)
        = (p.lines.drop first).filterMap (·.result) := Pass.sumRows_results rows covers
    have summed : ∃ answer?, total ((p.lines.drop first).filterMap (·.result)) = .ok answer?
        ∧ (∀ answer ∈ answer?, answer = final.sum.getD .zero)
        ∧ (answer? = none ↔ (p.lines.drop first).filterMap (·.result) = []
          ∨ SumFails ((p.lines.drop first).filterMap (·.result))) := by
      rcases Nat.le_total first (s.rows.take Pass.maxRows).length with inside | beyond
      · exact total_eq (Pass.sinceRestart_eq rows restart inside ▸ accumulated.sumOf_eq)
      · have empty : (p.lines.drop first).filterMap (·.result) = [] := by
          rw [← Pass.filterMap_result_take rows (k := 0) (by omega)]
          rfl
        rw [empty]
        exact ⟨none, rfl, by simp, by simp⟩
    obtain ⟨answer?, answered, same, fails⟩ := summed
    refine ⟨answer?, ?_, same, fails⟩
    simp only [sumRows, withPass, lastPass, selected, answered]
    rfl

/-- A row whose result cannot be added to the sum above it starts the sum again from zero; the sum
of the selected rows gives up there. -/
theorem Sheet.runningSum_eq_sumOf_mixed :
    let s := ofContent ['5', '\n', '-', '-', '\n', '[', '1', ',', '2', ']', '\n', '3', '\n', '4'] 4
    ∃ p s', s.evaluate = .ok (p, s') ∧ Pass.LeavesSum s.rows p.lines
      ∧ p.bindings.head? = some (Pass.sumName, .number (.ofDecimal (.ofNat 4)))
      ∧ sumOf (Pass.sinceRestart s.rows p.lines 5) = .ok (.number (.ofDecimal (.ofNat 4)))
      ∧ s'.sumRows 2 4 = (.ok none, s') := by
  intro s
  have succeeds : s.evaluate.toBool = true := by decide +kernel
  have unassigned : ∀ r, s.evaluate = .ok r → Pass.LeavesSum s.rows r.1.lines := by
    decide +kernel
  have head : ∀ r, s.evaluate = .ok r →
      r.1.bindings.head? = some (Pass.sumName, .number (.ofDecimal (.ofNat 4))) := by
    decide +kernel
  have selected : ∀ r, s.evaluate = .ok r → (r.1.lines.drop 2).filterMap (·.result)
      = [.matrix ⟨1, 2, [.ofDecimal (.ofNat 1), .ofDecimal (.ofNat 2)], rfl⟩,
        .number (.ofDecimal (.ofNat 3)), .number (.ofDecimal (.ofNat 4))] := by
    decide +kernel
  cases evaluated : s.evaluate with
  | error e =>
    rw [evaluated] at succeeds
    exact nomatch succeeds
  | ok r =>
    obtain ⟨p, s'⟩ := r
    obtain ⟨-, total, first, sum, selections⟩ :=
      runningSum_eq_sumOf evaluated (unassigned _ evaluated)
    obtain ⟨-, rfl⟩ := Prod.mk.inj (Option.some.inj (first.symm.trans (head _ evaluated)))
    refine ⟨p, s', rfl, unassigned _ evaluated, first, sum, ?_⟩
    have restart : Pass.LastRestart s.rows 2 := by
      refine ⟨.inr ⟨_, rfl, rfl⟩, fun r row after _ found => ?_⟩
      have inside : r < 5 := (List.getElem?_eq_some_iff.1 found).1
      have rest : ∀ row ∈ s.rows.drop 2, restartsSum row.text = false := by decide
      refine rest row (List.mem_iff_getElem?.2 ⟨r - 2, ?_⟩)
      rw [List.getElem?_drop, Nat.add_sub_cancel' after, found]
    obtain ⟨answer?, answered, -, fails⟩ := selections 2 4 restart (by decide)
    rw [selected _ evaluated] at fails
    obtain rfl := fails.2 (.inr ⟨[_], _, _, _, rfl, by simp, rfl, by decide +kernel⟩)
    exact answered

end CalcSheet
