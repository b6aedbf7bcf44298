import CalcSheet.Proofs.Evaluation.Shapes
import CalcSheet.Proofs.Sheet.States

/-!
# One more result

A row that assigns nothing adds its result to the sum, and gives it to its identifier. The rows
below have the same results whether it does or not, if they read neither; and then the pass does not
break down for it either, if all units can be written.
-/
namespace CalcSheet

/-! ### Sums of values that can be written -/

namespace Quantity
variable {x y : Quantity}

theorem lift_reports (r : Except Decimal.Signal α) :
    Yields (fun _ => True) (·.breakdown? = none) (lift r) := by
  cases r with
  | error s => rfl
  | ok a => trivial

/-- A conversion that fails is reported with the two units. -/
theorem conversion_reports {source target : Option PhysicalUnit}
    (hs : ∀ u ∈ source.toList, u.IsWritable) (ht : ∀ u ∈ target.toList, u.IsWritable) :
    Yields (fun _ => True) (·.breakdown? = none)
      (ofConversion (PhysicalUnit.conversionFactor source target)) := by
  unfold PhysicalUnit.conversionFactor
  split
  · exact if_pos fun u mem => (List.mem_append.1 mem).elim (hs u) (ht u)
  · dsimp only
    generalize (do
      if ← Scalar.equal _ _ then pure Scalar.one else Scalar.div _ _ _ :
        Except Decimal.Signal Scalar) = factor
    cases factor with
    | error s => rfl
    | ok z => trivial

/-- The sum of quantities in units that can be written is in such a unit, and if there is no sum,
the fault can be reported. -/
theorem IsWritable.add (hx : x.IsWritable) (hy : y.IsWritable) :
    Yields IsWritable (·.breakdown? = none) (x.add y) := by
  unfold Quantity.add
  split
  · exact if_pos fun u mem => (List.mem_append.1 mem).elim (hx u) (hy u)
  · split
    · exact (lift_reports _).bind fun _ _ => List.forall_mem_nil _
    · exact (conversion_reports hy hx).bind fun _ _ => (lift_reports _).bind fun _ _ =>
        (lift_reports _).bind fun _ _ => hx

end Quantity

namespace Value
variable {v w : Value}

theorem IsWritable.binary_add (hv : v.IsWritable) (hw : w.IsWritable) :
    Yields IsWritable (·.breakdown? = none) (binary .add v w) := by
  cases v with
  | number x =>
    cases w with
    | number y => exact (Quantity.IsWritable.add hv hw).map fun _ sum => sum
    | matrix b => rfl
  | matrix a =>
    cases w with
    | number y => rfl
    | matrix b =>
      have sum : Yields (fun m : QuantityMatrix => ∀ q ∈ m.cells, q.IsWritable)
          (·.breakdown? = none) (QuantityMatrix.elementwise Quantity.add a b) := by
        unfold QuantityMatrix.elementwise
        split
        · have pairs : ∀ xy ∈ a.cells.zip b.cells,
              Yields Quantity.IsWritable (·.breakdown? = none) (xy.1.add xy.2) := by
            intro xy mem
            obtain ⟨left, right⟩ := List.of_mem_zip mem
            exact Quantity.IsWritable.add (hv _ left) (hw _ right)
          exact (QuantityMatrix.traverse_yields pairs).bind fun _ cells => cells
        · rfl
      exact sum.map fun _ cells => cells

/-- Adding values in units that can be written does not break down. -/
theorem IsWritable.sum? (hv : v.IsWritable) (hw : w.IsWritable) :
    ∃ next?, v.sum? w = .ok next? ∧ ∀ t ∈ next?, t.IsWritable := by
  have added := hv.binary_add hw
  unfold Value.sum?
  cases sum : binary .add v w with
  | ok t =>
    exact ⟨some t, rfl, fun _ same => Option.some.inj same ▸ added.ok sum⟩
  | error fault =>
    have reported : fault.breakdown? = none := added.error sum
    exact ⟨none, by simp only [reported], by simp⟩

end Value

namespace Pass

variable {places : Int} {s s' next : State} {row : Row} {rows : List Row} {line : LineResult}
  {lines : List LineResult} {p : Pass} {id : LineId} {t : Text}

/-! ### Sums of a pass -/

/-- The unit of a result, if there is one, can be written. -/
def IsWritten (line : LineResult) : Prop := ∀ v ∈ line.result, v.IsWritable

instance : DecidablePred IsWritten := fun line =>
  inferInstanceAs (Decidable (∀ v ∈ line.result, v.IsWritable))

namespace State

/-- The sum, if there is one, can be written. -/
def SumWritten (s : State) : Prop := ∀ v ∈ s.sum, v.IsWritable

theorem exists_of_extendSum {sum : Option Value} {v : Value} (before : ∀ t ∈ sum, t.IsWritable)
    (hv : v.IsWritable) : ∃ total, extendSum sum v = .ok total ∧ total.IsWritable := by
  cases sum with
  | none => exact ⟨v, rfl, hv⟩
  | some old =>
    obtain ⟨next?, added, written⟩ := (before old rfl).sum? hv
    refine ⟨next?.getD .zero, by rw [extendSum, added]; rfl, ?_⟩
    cases next? with
    | none => exact List.forall_mem_nil _
    | some total => exact written total rfl

theorem SumWritten.record (h : s.SumWritten) {v : Value} (hv : v.IsWritable)
    (target? : Option Text) (id : LineId) :
    ∃ next, s.record target? id v = .ok next ∧ next.SumWritten := by
  have before : ∀ t ∈ (if target? = some sumName then s.sum.map fun _ => v else s.sum),
      t.IsWritable := by
    intro t mem
    split at mem
    · obtain ⟨_, -, rfl⟩ := Option.map_eq_some_iff.1 mem
      exact hv
    · exact h t mem
  obtain ⟨total, extended, written⟩ := exists_of_extendSum before hv
  refine ⟨_, by simp only [State.record, extended]; rfl, fun t same => ?_⟩
  obtain rfl := Option.some.inj same
  exact written

end State

theorem Evaluates.sumWritten (h : Evaluates places s row line next) (before : s.SumWritten)
    (written : IsWritten line) : next.SumWritten := by
  cases h with
  | textLine =>
    split
    · exact fun v mem => nomatch mem
    · exact before
  | withoutResult => exact before
  | withResult kind calculated recorded displayed =>
    obtain ⟨next', recorded', after⟩ := before.record (written _ rfl) _ _
    exact Except.ok.inj (recorded'.symm.trans recorded) ▸ after

/-- A result that can be displayed and written is found by the evaluation of its row. -/
theorem Evaluates.evaluateRow (h : Evaluates places s row line next) (written : IsWritten line) :
    evaluateRow places s row = .ok (line, next) := by
  unfold Pass.evaluateRow
  dsimp only
  cases h with
  | textLine kind scanned =>
    rw [if_pos kind, scanned]
    rfl
  | withoutResult kind calculated =>
    rw [if_neg (by simp [kind]), calculated]
    rfl
  | @withResult tokens o shown next kind calculated recorded displayed =>
    have remark : ∃ t, (if shown.text.isEmpty then o.result.written else .ok []) = .ok t := by
      split
      · exact ⟨_, if_pos (written _ rfl)⟩
      · exact ⟨_, rfl⟩
    obtain ⟨t, remark⟩ := remark
    rw [if_neg (by simp [kind]), calculated]
    simp only [bind, Except.bind, conclude, recorded, displayed, remark, Except.mapError]
    rfl

/-! ### Rows below -/

/-- A state with the same bindings as another one, and the same results for all identifiers but that
of one row, if it has one. The sums may differ. -/
structure State.Besides (id : LineId) (s s' : State) : Prop where
  bindings : s'.bindings = s.bindings
  references : ∀ k, (id ≠ 0 → k ≠ id) → s'.references.lookup k = s.references.lookup k

/-- A line finds the same values if it does not mention the identifier, nor the sum where the sums
differ. -/
theorem State.Besides.agreeOn (h : s.Besides id s') (sum : sumName <:+: t → s'.sum = s.sum)
    (unmentioned : id ≠ 0 → ¬ Reference.text id <:+: t) :
    s.environment.AgreeOn t s'.environment where
  valueOf? n occurs := by
    rw [valueOf?_environment, valueOf?_environment, h.bindings]
    by_cases same : n = sumName
    · rw [if_pos same, if_pos same, sum (same ▸ occurs)]
    · rw [if_neg same, if_neg same]
  resultOf? k occurs := by
    rw [resultOf?_environment, resultOf?_environment]
    refine h.references k fun held same => ?_
    exact unmentioned held (same ▸ occurs)

/-- A row that finds the same values has the same result in the other state. What differs stays
apart, and the sums agree from where they do, or from a line of dashes on. -/
theorem Evaluates.besides (h : Evaluates places s row line next) (named : s.WellNamed)
    (besides : s.Besides id s') (sum : s'.SumWritten) (written : IsWritten line)
    (agree : isTextLine (row.text.take maxWidth) = false →
      s.environment.AgreeOn (row.text.take maxWidth) s'.environment) :
    ∃ next', Evaluates places s' row line next' ∧ next.Besides id next' ∧ next'.SumWritten
      ∧ (s'.sum = s.sum ∨ restartsSum (row.text.take maxWidth) = true → next'.sum = next.sum) := by
  suffices found : ∃ next', Evaluates places s' row line next'
      ∧ (s'.sum = s.sum ∨ restartsSum (row.text.take maxWidth) = true → next'.sum = next.sum) by
    obtain ⟨next', evaluated, sums⟩ := found
    refine ⟨next', evaluated, ⟨?_, fun k other => ?_⟩, evaluated.sumWritten sum written, sums⟩
    · have binds := h.binds
      have binds' := evaluated.binds
      cases result : line.result with
      | none =>
        rw [result] at binds binds'
        rw [binds.2.1, binds'.2.1, besides.bindings]
      | some v =>
        rw [result] at binds binds'
        rw [binds.1, binds'.1, besides.bindings]
    · rw [h.lookup_references, evaluated.lookup_references, besides.references k other]
  cases h with
  | textLine kind scanned =>
    refine ⟨_, .textLine kind scanned, ?_⟩
    rintro (same | restarts)
    · split
      · rfl
      · exact same
    · rw [if_pos restarts, if_pos restarts]
  | withoutResult kind calculated =>
    have calculated' := (named.evaluate_eq (agree kind)).trans calculated
    refine ⟨s', .withoutResult kind calculated', ?_⟩
    rintro (same | restarts)
    · exact same
    · simp [isTextLine, restarts] at kind
  | @withResult tokens o shown next kind calculated recorded displayed =>
    obtain ⟨next', recorded', -⟩ := sum.record (written _ rfl)
      (if o.isAssignment then Assignment.target? (row.text.take maxWidth) else none) row.id
    have calculated' := (named.evaluate_eq (agree kind)).trans calculated
    refine ⟨next', .withResult kind calculated' recorded' displayed, ?_⟩
    rintro (same | restarts)
    · obtain ⟨total, extended, done⟩ := bind_eq_ok recorded
      obtain ⟨total', extended', done'⟩ := bind_eq_ok recorded'
      obtain rfl := Except.ok.inj done
      obtain rfl := Except.ok.inj done'
      rw [same, extended] at extended'
      exact congrArg some (Except.ok.inj extended').symm
    · simp [isTextLine, restarts] at kind

/-- Down to the next line of dashes, no row mentions the sum. -/
def SumUnread : List Row → Prop
  | [] => True
  | row :: rest => restartsSum (row.text.take maxWidth) = true
      ∨ (¬ sumName <:+: row.text.take maxWidth ∧ SumUnread rest)

instance decidableSumUnread : DecidablePred SumUnread
  | [] => .isTrue trivial
  | row :: rest =>
      have := decidableSumUnread rest
      inferInstanceAs (Decidable (restartsSum (row.text.take maxWidth) = true
        ∨ (¬ sumName <:+: row.text.take maxWidth ∧ SumUnread rest)))

end Pass
end CalcSheet
