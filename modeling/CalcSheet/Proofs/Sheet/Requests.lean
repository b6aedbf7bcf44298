import CalcSheet.Proofs.Sheet.Additions
import CalcSheet.Proofs.Sheet.Reading
import CalcSheet.Proofs.Sheet.Runs
import CalcSheet.Service

/-!
# References in requests

A request says which identifiers the lines have. They need not be counted, so they may have any
order and gaps between them; a line of a reference still has the result of the line that it refers
to. The document with a comment in its place is answered in the same way, but for this result.
-/
namespace CalcSheet

namespace Sheet

end Sheet

namespace Pass

variable {places : Int} {s next : State} {row row' above : Row} {rows : List Row}
  {line : LineResult} {p : Pass} {v : Value} {i j : Nat}

theorem stateBefore_set (rows : List Row) (j : Nat) (row : Row) :
    stateBefore places (rows.set j row) j = stateBefore places rows j := by
  rw [stateBefore, stateBefore, List.take_set, List.take_set_of_le (Nat.le_refl j)]

/-- Row `j` is a reference to row `i`, which is the only one with its identifier. -/
structure RefersTo (rows : List Row) (i j : Nat) (above row : Row) : Prop where
  order : i < j
  inside : j < (rows.take maxRows).length
  at_i : rows[i]? = some above
  at_j : rows[j]? = some row
  pos : 0 < above.id
  own : ∀ r other, rows[r]? = some other → above.id = other.id → i = r
  text : row.text = Reference.text above.id
  width : row.text.length ≤ maxWidth

/-- In a state that rows have left behind, a row is calculated to a value. -/
def CalculatesTo (s : State) (row : Row) (v : Value) : Prop :=
  isTextLine (row.text.take maxWidth) = false ∧ ∃ tokens,
    Line.evaluate s.environment s.environment.knownNames (row.text.take maxWidth)
      = .ok (tokens, some ⟨v, false, false, false⟩)

/-- A row that is calculated to a value has it as its result if it can be written and displayed. -/
theorem CalculatesTo.exists_evaluates (calculates : CalculatesTo s row v) (sum : s.SumWritten)
    (written : v.IsWritable) {shown : Displayed}
    (displayed : Displayed.ofValue row.base false places v = .ok shown) :
    ∃ line next, Evaluates places s row line next ∧ assigned? row line = none
      ∧ line.result = some v := by
  obtain ⟨kind, tokens, calculated⟩ := calculates
  obtain ⟨next, recorded, -⟩ := sum.record written none row.id
  have display : Line.display row.base places ⟨v, false, false, false⟩ = .ok shown := by
    rw [Line.display, displayed]
    rfl
  exact ⟨_, next, .withResult kind calculated recorded display, rfl, rfl⟩

/-- A reference to a row above is calculated to the result of the row, also where the pass had
another row with the same identifier in the place of the reference. -/
theorem RefersTo.calculates (refers : RefersTo rows i j above row)
    (h : ofRows places (rows.set j row') = .ok p) (same : row'.id = row.id)
    (found : p.lines[i]? = some line) (result : line.result = some v) :
    ∃ s, stateBefore places rows j = .ok s ∧ CalculatesTo s row v := by
  have inside : j ≤ ((rows.set j row').take maxRows).length := by
    rw [List.take_set, List.length_set]
    exact Nat.le_of_lt refers.inside
  have at_i : (rows.set j row')[i]? = some above := by
    rw [List.getElem?_set_ne (Nat.ne_of_gt refers.order), refers.at_i]
  have own (r : Nat) (other : Row) (at_r : (rows.set j row')[r]? = some other)
      (equal : above.id = other.id) : i = r := by
    by_cases here : j = r
    · subst here
      rw [List.getElem?_set_self (List.getElem?_eq_some_iff.1 refers.at_j).1] at at_r
      obtain rfl := Option.some.inj at_r
      exact refers.own j row refers.at_j (equal.trans same)
    · rw [List.getElem?_set_ne here] at at_r
      exact refers.own r other at_r equal
  obtain ⟨s, before, named⟩ := wellNamed_stateBefore h inside
  have bound := lookup_references_of_id h refers.order inside before at_i found result
    (Int.ne_of_gt refers.pos) own
  have alone : StandsAlone (Reference.text above.id) row.text :=
    ⟨[], [], nofun, nofun, by rw [refers.text, List.append_nil]; rfl⟩
  obtain ⟨kind, tokens, scanned, single⟩ :=
    named.consistsOf_reference refers.pos bound refers.width alone
  rw [stateBefore_set] at before
  exact ⟨s, before, kind, tokens,
    Line.evaluate_operand scanned single (s.step_reference bound)⟩

end Pass

namespace Service
open Sheet

variable {text text' comment : Text} {metas : List LineMeta} {m : LineMeta} {places : Int}
  {data data' : List LineData} {s : Sheet} {a : Evaluation} {i j : Nat}

/-! ### The sheet of a request -/

end Service
end CalcSheet
