import CalcSheet.Evaluation

/-!
# Expression trees

A tree says what a line computes, apart from how it is written. Its steps are its post-order, and
its value is computed by recursion on the tree, without a stack.
-/
namespace CalcSheet

/-- Where a step stems from: the characters of a token, as far as they are known. -/
structure Span where
  start? : Option Nat
  stop? : Option Nat
  deriving DecidableEq, Repr

namespace Span

/-- The span of what no character stands for. -/
def absent : Span := ⟨none, none⟩

def step (span : Span) (a : Action) : Step := ⟨a, span.start?, span.stop?⟩

end Span

def Token.span (t : Token) : Span := ⟨some t.start, some t.stop⟩

/-- An expression. The cells of a matrix are numbered by row and column, so that it has as many of
them as its shape says. -/
inductive Tree where
  | operand (o : Operand) (span : Span)
  | binary (op : BinaryOp) (left right : Tree) (span : Span)
  | negation (e : Tree) (span : Span)
  | attachment (e : Tree) (u : Option PhysicalUnit) (span : Span)
  | conversion (e : Tree) (u : Option PhysicalUnit) (span : Span)
  | matrix (rows cols : Nat) (cells : Fin rows → Fin cols → Tree) (span : Span)

namespace Tree

/-- The steps of a tree in post-order, the cells of a matrix row by row. -/
def steps : Tree → List Step
  | operand o span => [span.step (.push o)]
  | binary op left right span => left.steps ++ right.steps ++ [span.step (.operate op)]
  | negation e span => e.steps ++ [span.step .negate]
  | attachment e u span => e.steps ++ [span.step (.attach u)]
  | conversion e u span => e.steps ++ [span.step (.convert u)]
  | matrix rows cols cells span =>
      ((List.finRange rows).flatMap fun i => (List.finRange cols).flatMap fun j =>
        (cells i j).steps) ++ [span.step (.matrix rows cols)]

/-- What an operand stands for. -/
def operandValue (env : Environment) : Operand → Except Fault Value
  | .number x => .ok (.number (.ofDecimal x))
  | .variable name =>
      match env.valueOf? name with
      | some v => .ok v
      | none => .error (.unknownVariable name)
  | .reference id =>
      match env.resultOf? id with
      | some v => .ok v
      | none => .error (.noResult id)

/-- The value of a tree: operators are applied to the values of the operands, from left to right,
and a unit to every cell of a matrix. -/
def value (env : Environment) : Tree → Except Fault Value
  | operand o _ => operandValue env o
  | binary op left right _ => do
      let x ← left.value env
      let y ← right.value env
      Value.binary op x y
  | negation e _ => do
      let x ← e.value env
      x.neg
  | attachment e u _ => do
      let x ← e.value env
      x.map (·.attach u)
  | conversion e u _ => do
      let x ← e.value env
      x.map (·.convert u)
  | matrix rows cols cells _ => do
      let values ← (List.finRange rows).mapM fun i => (List.finRange cols).mapM fun j =>
        (cells i j).value env
      Value.ofCells rows cols values.flatten

/-- Whether a conversion stands somewhere in a tree. -/
def hasConversion : Tree → Bool
  | operand .. => false
  | binary _ left right _ => left.hasConversion || right.hasConversion
  | negation e _ | attachment e _ _ => e.hasConversion
  | conversion .. => true
  | matrix rows cols cells _ =>
      (List.finRange rows).any fun i => (List.finRange cols).any fun j => (cells i j).hasConversion

/-- Whether a binary operator, a minus sign or a conversion stands somewhere in a tree. -/
def hasOperation : Tree → Bool
  | operand .. => false
  | binary .. | negation .. | conversion .. => true
  | attachment e _ _ => e.hasOperation
  | matrix rows cols cells _ =>
      (List.finRange rows).any fun i => (List.finRange cols).any fun j => (cells i j).hasOperation

theorem steps_ne_nil (e : Tree) : e.steps ≠ [] := by
  cases e <;> simp [steps]

/-- A tree does not end with an assignment. -/
theorem any_getLast?_steps (e : Tree) : e.steps.getLast?.any (·.action == .assign) = false := by
  cases e <;> simp [steps, Span.step]

end Tree
end CalcSheet
