import CalcSheet.Proofs.Sheet.Reading
import CalcSheet.Proofs.Sheet.Runs

/-!
# What a pass reports

The bindings and the references of a pass are those of the results of its rows: each name and each
identifier is bound once, to the last of its results, and the names stand in the order in which they
were first bound.
-/
namespace CalcSheet

namespace Bindings
variable {κ α : Type} [DecidableEq κ] {k : κ} {v : α} {xs : List (κ × α)}

theorem ofPairs_filterMap_concat {β : Type} (f : β → Option (κ × α)) (xs : List β) (x : β) :
    ofPairs ((xs ++ [x]).filterMap f)
      = (f x).elim (ofPairs (xs.filterMap f)) fun (k, v) => bind k v (ofPairs (xs.filterMap f)) := by
  rw [List.filterMap_append, List.filterMap_cons]
  cases f x <;> simp

end Bindings

namespace Pass

variable {places : Int} {s next : State} {row : Row} {rows : List Row} {line : LineResult} {p : Pass}
  {r : Nat} {v : Value}

/-- The name that a row assigns its result to, with the result. The sum keeps no result that is
assigned to it. -/
def assignment? (row : Row) (line : LineResult) : Option (Text × Value) :=
  match Assignment.target? (row.text.take maxWidth), line.result with
  | some name, some v => if name = sumName then none else some (name, v)
  | _, _ => none

/-- The identifier of a row, with its result. -/
def identified? (row : Row) (line : LineResult) : Option (LineId × Value) :=
  line.result.bind fun v => if row.id = 0 then none else some (row.id, v)

/-- The assignments of rows from top to bottom. -/
def assignments (pairs : List (Row × LineResult)) : List (Text × Value) :=
  pairs.filterMap fun x => assignment? x.1 x.2

/-- The results of rows with an identifier from top to bottom. -/
def identifiedResults (pairs : List (Row × LineResult)) : List (LineId × Value) :=
  pairs.filterMap fun x => identified? x.1 x.2

theorem assignment?_of_result_none (noResult : line.result = none) : assignment? row line = none := by
  rw [assignment?, noResult]
  split <;> first | rfl | next absurd => exact nomatch absurd

theorem identified?_of_result_none (noResult : line.result = none) :
    identified? row line = none := by
  rw [identified?, noResult]
  rfl

/-! ### What rows leave behind -/

theorem Evaluates.isAssignment_iff (h : Evaluates places s row line next) :
    line.isAssignment = true ↔
      ∃ name v, Assignment.target? (row.text.take maxWidth) = some name ∧ line.result = some v := by
  cases h with
  | textLine => exact ⟨nofun, fun ⟨_, _, _, result⟩ => nomatch result⟩
  | withoutResult => exact ⟨nofun, fun ⟨_, _, _, result⟩ => nomatch result⟩
  | withResult kind calculated =>
    constructor
    · intro assigns
      obtain ⟨name, target⟩ := Line.target?_of_isAssignment kind calculated assigns
      exact ⟨name, _, target, rfl⟩
    · rintro ⟨name, _, target, -⟩
      exact Line.isAssignment_of_target? kind target calculated

theorem Evaluates.bindings_eq (h : Evaluates places s row line next) :
    next.bindings = (assignment? row line).elim s.bindings
      fun (name, v) => Bindings.bind name v s.bindings := by
  have binds := h.binds
  cases result : line.result with
  | none =>
    rw [result] at binds
    rw [assignment?_of_result_none result, binds.2.1]
    rfl
  | some v =>
    rw [result] at binds
    rw [binds.1, assignment?, result]
    cases target : Assignment.target? (row.text.take maxWidth) with
    | none =>
      have none : assigned? row line = none := by
        rw [assigned?, target]
        exact ite_self _
      rw [none]
      rfl
    | some name =>
      rw [h.assigned?_eq target result]
      dsimp only
      split <;> rfl

theorem Evaluates.references_eq (h : Evaluates places s row line next) :
    next.references = (identified? row line).elim s.references
      fun (id, v) => Bindings.bind id v s.references := by
  have binds := h.binds
  cases result : line.result with
  | none =>
    rw [result] at binds
    rw [identified?_of_result_none result, binds.2.2]
    rfl
  | some v =>
    rw [result] at binds
    rw [binds.2, identified?, result, Option.bind_some]
    split <;> rfl

theorem bindings_stateBefore (h : ofRows places rows = .ok p)
    (inside : r ≤ (rows.take maxRows).length) (before : stateBefore places rows r = .ok s) :
    s.bindings = Bindings.ofPairs (assignments ((rows.zip p.lines).take r))
      ∧ s.references = Bindings.ofPairs (identifiedResults ((rows.zip p.lines).take r)) := by
  obtain ⟨s', before', bound⟩ := stateBefore_invariant (motive := fun r s =>
      s.bindings = Bindings.ofPairs (assignments ((rows.zip p.lines).take r))
        ∧ s.references = Bindings.ofPairs (identifiedResults ((rows.zip p.lines).take r)))
    h ⟨rfl, rfl⟩ (fun {r row line s next} _ at_r found evaluated bound => by
      have here : (rows.zip p.lines)[r]? = some (row, line) :=
        List.getElem?_zip_eq_some.2 ⟨at_r, found⟩
      rw [List.take_add_one, here, evaluated.bindings_eq, evaluated.references_eq, bound.1, bound.2]
      exact ⟨(Bindings.ofPairs_filterMap_concat (fun x => assignment? x.1 x.2) _ (row, line)).symm,
        (Bindings.ofPairs_filterMap_concat (fun x => identified? x.1 x.2) _ (row, line)).symm⟩) inside
  obtain rfl := Except.ok.inj (before.symm.trans before')
  exact bound

/-- Rows past the limit bind nothing. -/
theorem results_drop (h : ofRows places rows = .ok p) :
    assignments ((rows.zip p.lines).drop (rows.take maxRows).length) = []
      ∧ identifiedResults ((rows.zip p.lines).drop (rows.take maxRows).length) = [] := by
  have noResult : ∀ x ∈ (rows.zip p.lines).drop (rows.take maxRows).length,
      x.2.result = none := by
    intro x mem
    obtain ⟨i, found⟩ := List.mem_iff_getElem?.1 mem
    rw [List.getElem?_drop] at found
    exact result_eq_none h (Nat.le_add_right _ i) (List.getElem?_zip_eq_some.1 found).2
  exact ⟨List.filterMap_eq_nil_iff.2 fun x mem => assignment?_of_result_none (noResult x mem),
    List.filterMap_eq_nil_iff.2 fun x mem => identified?_of_result_none (noResult x mem)⟩

/-- The bindings of a pass are those of the results of its rows, behind the sum. -/
theorem bindings_eq_ofPairs (h : ofRows places rows = .ok p) :
    (∃ total, p.bindings = (sumName, total) :: Bindings.ofPairs (assignments (rows.zip p.lines)))
      ∧ p.references = Bindings.ofPairs (identifiedResults (rows.zip p.lines)) := by
  obtain ⟨s, before⟩ := exists_stateBefore h (Nat.le_refl (rows.take maxRows).length)
  obtain ⟨bindings, references⟩ := bindings_stateBefore h (Nat.le_refl _) before
  obtain ⟨bound, referred⟩ := bindings_of_stateBefore h before
  obtain ⟨noNames, noIds⟩ := results_drop h
  rw [← List.take_append_drop (rows.take maxRows).length (rows.zip p.lines), assignments,
    identifiedResults, List.filterMap_append, List.filterMap_append]
  rw [assignments] at noNames
  rw [identifiedResults] at noIds
  rw [noNames, noIds, List.append_nil, List.append_nil, bound, referred, State.allBindings]
  exact ⟨⟨_, congrArg _ bindings⟩, references⟩

theorem isAssignment_iff (h : ofRows places rows = .ok p) (at_r : rows[r]? = some row)
    (found : p.lines[r]? = some line) : line.isAssignment = true ↔
      ∃ name v, Assignment.target? (row.text.take maxWidth) = some name ∧ line.result = some v := by
  by_cases inside : r < (rows.take maxRows).length
  · obtain ⟨s, before⟩ := exists_stateBefore h (Nat.le_of_lt inside)
    obtain ⟨_, _, next, at_r', found', evaluated, -⟩ := evaluates_of_stateBefore h inside before
    obtain rfl := Option.some.inj (at_r.symm.trans at_r')
    obtain rfl := Option.some.inj (found.symm.trans found')
    exact evaluated.isAssignment_iff
  · rw [getElem?_lines_of_le h (Nat.le_of_not_lt inside), at_r, Option.map_some] at found
    obtain rfl := Option.some.inj found
    exact ⟨nofun, fun ⟨_, _, _, result⟩ => nomatch result⟩

end Pass

namespace Sheet

end Sheet
end CalcSheet
