import CalcSheet.Bindings
import CalcSheet.Line

/-!
# Passes over a sheet

A pass evaluates the rows from top to bottom. Each row sees the variables and the results of the
rows above it, and `sum`, which adds up the results since the last line of dashes.
-/
namespace CalcSheet

/-- A line with what is known about it: the identifier that references to it use, zero while there
are none, and the base of its result. -/
structure Row where
  text : Text
  id : LineId
  base : Numeral.Base
  deriving DecidableEq, Repr

/-- What a pass found out about a row. -/
structure LineResult where
  result : Option Value
  shown : Displayed
  tokens : List Token
  isAssignment : Bool
  deriving DecidableEq

/-- A row that has no result. -/
def LineResult.plain (tokens : List Token) : LineResult := ⟨none, ⟨[], .zero, none⟩, tokens, false⟩

/-- The results of the rows, the bindings with `sum` in first place, and the results that can be
referred to. -/
structure Pass where
  lines : List LineResult
  bindings : List (Text × Value)
  references : List (LineId × Value)
  deriving DecidableEq

namespace Pass

/-- How many rows are evaluated. -/
def maxRows : Nat := 64

/-- How many characters of a line are evaluated. -/
def maxWidth : Nat := 120

def sumName : Text := ['s', 'u', 'm']

/-- What the rows so far have left behind. The sum is absent until a result comes. -/
structure State where
  sum : Option Value
  bindings : List (Text × Value)
  references : List (LineId × Value)
  deriving DecidableEq

namespace State

def initial : State := ⟨none, [], []⟩

/-- All bindings, `sum` first. -/
def allBindings (s : State) : List (Text × Value) := (sumName, s.sum.getD .zero) :: s.bindings

def environment (s : State) : Environment :=
  ⟨s.allBindings.map fun (n, v) => (n, some v), s.references.map fun (id, v) => (id, some v)⟩

/-- The sum with one more result. A sum that cannot be formed goes on from zero. -/
def extendSum (sum : Option Value) (v : Value) : Except Breakdown Value :=
  match sum with
  | none => .ok v
  | some total => do
      let next? ← total.sum? v
      pure (next?.getD .zero)

/-- Record the result of a row. An assignment to the sum takes effect before the result is added. -/
def record (s : State) (target? : Option Text) (id : LineId) (v : Value) :
    Except Breakdown State := do
  let sum ← extendSum (if target? = some sumName then s.sum.map fun _ => v else s.sum) v
  pure {
    sum := some sum
    bindings := match target? with
      | some name => if name = sumName then s.bindings else Bindings.bind name v s.bindings
      | none => s.bindings
    references := if id = 0 then s.references else Bindings.bind id v s.references }

end State

/-- Record the result of a line, and display it in the base of its row. -/
def conclude (places : Int) (s : State) (row : Row) (line : Text) (tokens : List Token)
    (o : Outcome) : Except LineFault (LineResult × State) := do
  let target? := if o.isAssignment then Assignment.target? line else none
  let s ← (s.record target? row.id o.result).mapError .calculation
  let shown ← Line.display row.base places o
  -- a result without a text of its own is remarked on by its value
  let _ ← (if shown.text.isEmpty then o.result.written else .ok []).mapError .calculation
  pure (⟨some o.result, shown, tokens, o.isAssignment⟩, s)

/-- Evaluate one row. -/
def evaluateRow (places : Int) (s : State) (row : Row) : Except LineFault (LineResult × State) := do
  let line := row.text.take maxWidth
  if isTextLine line then
    let tokens ← (Token.scan line []).mapError .scan
    pure (.plain tokens, if restartsSum line then { s with sum := none } else s)
  else
    let (tokens, outcome?) ← Line.evaluate s.environment s.environment.knownNames line
    match outcome? with
    | none => pure (.plain tokens, s)
    | some o => conclude places s row line tokens o

/-- Evaluate rows one after the other. -/
def evaluateRows (places : Int) : State → List Row → Except LineFault (List LineResult × State)
  | s, [] => .ok ([], s)
  | s, row :: rest => do
      let (line, s) ← evaluateRow places s row
      let (lines, s) ← evaluateRows places s rest
      pure (line :: lines, s)

/-- A pass over all rows; those past the limit have no results. -/
def ofRows (places : Int) (rows : List Row) : Except LineFault Pass := do
  let (lines, s) ← evaluateRows places .initial (rows.take maxRows)
  pure ⟨lines ++ (rows.drop maxRows).map fun _ => .plain [], s.allBindings, s.references⟩

/-- Whether the row has a result. -/
def hasResult (p : Pass) (row : Nat) : Bool := p.lines[row]?.any (·.result.isSome)

/-- The rows with a result, as the bits of a number. -/
def resultBits (p : Pass) : Nat :=
  p.lines.foldr (fun line bits => 2 * bits + if line.result.isSome then 1 else 0) 0

/-- The names and results that text outside of the sheet can use. -/
def environment (p : Pass) : Environment :=
  ⟨p.bindings.map fun (n, v) => (n, some v), p.references.map fun (id, v) => (id, some v)⟩

def texts (p : Pass) : List Text := p.lines.map (·.shown.text)

end Pass
end CalcSheet
