import CalcSheet.Sheet.Edit

/-!
# Selections

A selected text is evaluated against the last pass, and a selected range of rows is added up. The
sheet that comes with the answer has been evaluated, if it had not been before.
-/
namespace CalcSheet.Sheet

/-- Answer a question about the last pass. -/
def withPass (s : Sheet) (answer : Pass → Except SheetFault α) : Except SheetFault α × Sheet :=
  match s.lastPass with
  | .error fault => (.error fault, s)
  | .ok (p, s) => (answer p, s)

/-- How results of a row are displayed. -/
def baseOf (s : Sheet) (row : Int) : Except SheetFault Numeral.Base :=
  (·.base) <$> elementAt s.data row

/-- The value of a fragment of a line, if the fragment holds an operation. -/
def evaluateSelection (s : Sheet) (t : Text) (row : Int) :
    Except SheetFault (Option Text) × Sheet :=
  s.withPass fun p => do
    let (_, outcome?) ←
      (Line.evaluate p.environment p.environment.knownNames (t.take Pass.maxWidth)).mapError .line
    match outcome? with
    | none => pure none
    | some o =>
        if o.operated then
          let base ← s.baseOf row
          let shown ← (Line.display base s.places o).mapError .line
          pure (some shown.text)
        else pure none

/-- The elements from place `first` up to `stop`, where negative places count from the end. -/
def slice (xs : List α) (first stop : Int) : List α :=
  let place (i : Int) : Nat := if 0 ≤ i then i.toNat else (i + xs.length).toNat
  (xs.drop (place first)).take (place stop - place first)

/-- Add results to a sum; one that cannot be added leaves no sum. -/
def totalFrom (sum : Value) : List Value → Except Breakdown (Option Value)
  | [] => .ok (some sum)
  | v :: rest => do
      match ← sum.sum? v with
      | some sum => totalFrom sum rest
      | none => pure none

/-- The sum of results, if there are any. -/
def total : List Value → Except Breakdown (Option Value)
  | [] => .ok none
  | v :: rest => totalFrom v rest

/-- The sum of the results of the rows from `first` to `last`. -/
def sumRows (s : Sheet) (first last : Int) : Except SheetFault (Option Value) × Sheet :=
  s.withPass fun p =>
    (total ((slice p.lines first (last + 1)).filterMap (·.result))).mapError
      (.line ∘ .calculation)

/-- The sum of the rows from `first` to `last`, displayed in the base of the first. -/
def evaluateSelectionRows (s : Sheet) (first last : Int) :
    Except SheetFault (Option Text) × Sheet :=
  match s.sumRows first last with
  | (.error fault, s) => (.error fault, s)
  | (.ok none, s) => (.ok none, s)
  | (.ok (some v), s) => (do
      let base ← s.baseOf first
      let shown ← (Displayed.ofValue base false s.places v).mapError (.line ∘ .display)
      pure (some shown.text), s)

end CalcSheet.Sheet
