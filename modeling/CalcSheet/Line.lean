import CalcSheet.Display.Result
import CalcSheet.Evaluation

/-!
# One line

A line is scanned, put into postfix order and evaluated; its result is then displayed. A fault that
a line cannot contain comes from scanning, from a breakdown of the calculation, or from displaying.
-/
namespace CalcSheet

inductive LineFault where
  | scan (cause : Token.ScanFault)
  | calculation (cause : Breakdown)
  | display (cause : DisplayFault)
  deriving DecidableEq, Repr

namespace Line

/-- The steps of a line. -/
def steps (line : Text) (names : List KnownName) : Except LineFault (List Step) :=
  ((Token.scan line names).map Postfix.ofTokens).mapError .scan

/-- The tokens of a line and its result, if it has one. -/
def evaluate (env : Environment) (names : List KnownName) (line : Text) :
    Except LineFault (List Token × Option Outcome) := do
  let tokens ← (Token.scan line names).mapError .scan
  let outcome ← (Outcome.ofSteps env (Postfix.ofTokens tokens)).mapError .calculation
  pure (tokens, outcome)

/-- A result as it is displayed. -/
def display (base : Numeral.Base) (places : Int) (o : Outcome) : Except LineFault Displayed :=
  (Displayed.ofValue base o.converted places o.result).mapError .display

end Line
end CalcSheet
