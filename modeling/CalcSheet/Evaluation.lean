import CalcSheet.Postfix
import CalcSheet.Token.Scan
import CalcSheet.Value

/-!
# Evaluation of a line

The steps of a line run on a stack of values. A line has a result if no step fails and one value is
left; its failures stay inside the line.
-/
namespace CalcSheet

/-- The names a line can refer to. A name without a value counts as unknown. -/
structure Environment where
  bindings : List (Text × Option Value)
  results : List (LineId × Option Value)

namespace Environment

/-- The value of the first variable of that name. -/
def valueOf? (env : Environment) (name : Text) : Option Value :=
  (env.bindings.lookup name).join

def resultOf? (env : Environment) (id : LineId) : Option Value := (env.results.lookup id).join

/-- The names that a line may use by default: variables with a value, then every line reference. -/
def knownNames (env : Environment) : List KnownName :=
  (env.bindings.filter (·.2.isSome)).map (fun (name, _) => ⟨name, false⟩)
    ++ env.results.map fun (id, _) => ⟨Reference.text id, true⟩

end Environment

/-- The stack, top first, and what has happened so far. -/
structure Machine where
  stack : List Value
  converted : Bool
  operated : Bool

/-- The result of a line. -/
structure Outcome where
  result : Value
  isAssignment : Bool
  converted : Bool
  operated : Bool
  deriving DecidableEq

namespace Machine

def initial : Machine := ⟨[], false, false⟩

/-- Replace the top of the stack. -/
def mapTop (f : Value → Except Fault Value) (m : Machine) : Except Fault Machine :=
  match m.stack with
  | [] => .error .emptyStack
  | v :: rest => do
      let w ← f v
      pure { m with stack := w :: rest }

/-- Run one action. -/
def step (env : Environment) (m : Machine) : Action → Except Fault Machine
  | .push (.number x) => .ok { m with stack := .number (.ofDecimal x) :: m.stack }
  | .push (.variable name) =>
      match env.valueOf? name with
      | some v => .ok { m with stack := v :: m.stack }
      | none => .error (.unknownVariable name)
  | .push (.reference id) =>
      match env.resultOf? id with
      | some v => .ok { m with stack := v :: m.stack }
      | none => .error (.noResult id)
  | .operate op =>
      match m.stack with
      | right :: left :: rest => do
          let v ← Value.binary op left right
          pure { m with stack := v :: rest, operated := true }
      | _ => .error .emptyStack
  | .negate => do
      let m ← m.mapTop Value.neg
      pure { m with operated := true }
  | .attach u => m.mapTop (Value.map (·.attach u))
  | .convert u => do
      let m ← m.mapTop (Value.map (·.convert u))
      pure { m with converted := true, operated := true }
  | .matrix rows cols =>
      let count := rows * cols
      if m.stack.length < count then .error (.missingCells count)
      else do
        let v ← Value.ofCells rows cols (m.stack.take count).reverse
        pure { m with stack := v :: m.stack.drop count }
  | .assign => .error .assignment

def run (env : Environment) : Machine → List Step → Except Fault Machine
  | m, [] => .ok m
  | m, s :: rest => do
      let m ← m.step env s.action
      run env m rest

/-- Run the steps one by one: the stack after each, up to the first fault, and the last machine. -/
def trace (env : Environment) :
    Machine → List Step → List (Step × Except Fault (List Value)) × Machine
  | m, [] => ([], m)
  | m, s :: rest =>
      match m.step env s.action with
      | .ok m =>
          let (later, last) := trace env m rest
          ((s, .ok m.stack) :: later, last)
      | .error fault => ([(s, .error fault)], m)

end Machine

namespace Outcome

/-- The result of the steps of a line, if it has one. A breakdown goes beyond the line. -/
def ofSteps (env : Environment) (steps : List Step) : Except Breakdown (Option Outcome) :=
  let isAssignment := steps.getLast?.any (·.action == .assign)
  let steps := if isAssignment then steps.dropLast else steps
  match Machine.initial.run env steps with
  | .error fault =>
      match fault.breakdown? with
      | some cause => .error cause
      | none => .ok none
  | .ok ⟨[v], converted, operated⟩ => .ok (some ⟨v, isAssignment, converted, operated⟩)
  | .ok _ => .ok none

end Outcome
end CalcSheet
