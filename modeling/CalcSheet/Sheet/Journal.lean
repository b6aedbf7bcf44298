import CalcSheet.Sheet.Basic
import CalcSheet.Text.Quoted

/-!
# The journal of a sheet

With the journal on, a pass leaves a remark for each calculated row and an entry for itself.
The entries have times, which are not part of this library: `T` and `D` stand for them.
-/
namespace CalcSheet.Sheet

def textOf (s : String) : Text := s.toList

/-- The remark on a row, counted from one. -/
def remark (number : Nat) (line : Text) (r : LineResult) : Text :=
  match r.result with
  | none => textOf s!"[Worksheet] line {number}: no result for " ++ line.quoted
  | some v =>
      textOf s!"[Worksheet] line {number}: " ++ line.quoted ++ textOf " -> "
        ++ (if r.shown.text.isEmpty then v.text else r.shown.text)

/-- The remarks on the rows of a pass; lines of plain text have none. -/
def remarks (s : Sheet) (p : Pass) : List Text :=
  ((s.rows.take Pass.maxRows).zip p.lines).zipIdx.filterMap fun ((row, r), k) =>
    let line := row.text.take Pass.maxWidth
    if isTextLine line then none else some (remark (k + 1) line r)

/-- The entry of a pass. -/
def passEntry (s : Sheet) : Text := textOf s!"[T] evaluate: Dms ({s.texts.length} lines)"

/-- The last `n` elements. -/
def latest (n : Nat) (xs : List α) : List α := xs.drop (xs.length - n)

/-- What a number of passes print, and the entries that are kept: the latest fifty. -/
def passesJournal : Nat → Sheet → List Text → Except SheetFault (List Text × List Text)
  | 0, _, entries => .ok ([], entries)
  | passes + 1, s, entries => do
      let (p, s) ← s.evaluate
      let (printed, kept) ← passesJournal passes s (latest 50 (entries ++ [s.passEntry]))
      pure (s.remarks p ++ [s.passEntry] ++ printed, kept)

/-- The summary of the latest ten entries. -/
def summary (entries : List Text) : List Text :=
  [[], textOf "=== PERFORMANCE LOG (Last 10 entries) ==="] ++ latest 10 entries
    ++ [textOf "==========================================", []]

/-- The lines printed by a number of passes, a dividing line and the summary, and the entries. -/
def journal (s : Sheet) (on : Bool) (passes : Nat) :
    Except SheetFault (List Text × List Text) := do
  let (printed, entries) ← passesJournal passes s []
  let divider := textOf "@@summary"
  pure (if on then (printed ++ divider :: summary entries ++ [[]], entries)
    else ([divider, []], []))

end CalcSheet.Sheet
