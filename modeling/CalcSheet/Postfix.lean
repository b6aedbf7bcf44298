import CalcSheet.Token.Basic

/-!
# Postfix order

The tokens of a line are put into the order of evaluation. `^` binds to the right and tighter than
`*` and `/`, these tighter than `+` and `-`; a minus sign before an operand binds tightest; a unit
belongs to the operand before it, and a conversion to everything before it inside its brackets.
Two operands side by side are multiplied, unless text stands between them. Square brackets with
separators make a matrix.

A bracket that does not fit ends the line: what was read before the outermost open bracket counts.
-/
namespace CalcSheet

/-- One step of a calculation on a stack. -/
inductive Action where
  | push (o : Operand)
  | operate (op : BinaryOp)
  | negate
  | attach (u : Option PhysicalUnit)
  | convert (u : Option PhysicalUnit)
  | matrix (rows cols : Nat)
  | assign
  deriving DecidableEq, Repr

/-- An action with the span of the token it stems from. A multiplication that no character stands
for has no span, and of a matrix only the beginning is known. -/
structure Step where
  action : Action
  start? : Option Nat
  stop? : Option Nat
  deriving DecidableEq, Repr

namespace Postfix

/-- Why brackets do not fit. -/
inductive BracketFault where
  | unexpectedClosing
  | unclosed
  | emptyCell
  | raggedRows
  deriving DecidableEq, Repr

/-- An operator that waits for its right operand. -/
inductive PendingOp where
  | operator (op : BinaryOp)
  | minus
  deriving DecidableEq, Repr

structure Waiting where
  operator : PendingOp
  start? : Option Nat
  stop? : Option Nat
  deriving DecidableEq, Repr

def PendingOp.rank : PendingOp → Nat
  | operator .add | operator .sub => 1
  | operator .mul | operator .div => 2
  | operator .pow => 3
  | minus => 4

def Waiting.toStep (w : Waiting) : Step :=
  ⟨match w.operator with
    | .operator op => .operate op
    | .minus => .negate, w.start?, w.stop?⟩

/-- What one pair of brackets, or the whole line, has produced: finished steps in order, and the
waiting operators, the latest first. -/
structure Level where
  output : List Step
  waiting : List Waiting
  deriving DecidableEq, Repr

def Level.empty : Level := ⟨[], []⟩

/-- Finish all waiting operators. -/
def Level.flush (l : Level) : Level := ⟨l.output ++ l.waiting.map Waiting.toStep, []⟩

/-- Let an operator wait, after those that bind at least as tight. -/
def Level.wait (l : Level) (w : Waiting) : Level :=
  let rank := w.operator.rank
  let staysOpen (v : Waiting) : Bool :=
    decide (v.operator.rank < rank) || (v.operator.rank == rank && w.operator == .operator .pow)
  let finished := l.waiting.takeWhile (!staysOpen ·)
  ⟨l.output ++ finished.map Waiting.toStep, w :: l.waiting.drop finished.length⟩

/-- The rows and cells that an open square bracket has collected. -/
structure Layout where
  rows : Nat
  cols? : Option Nat
  current : Nat
  hasSeparator : Bool
  deriving DecidableEq, Repr

def Layout.empty : Layout := ⟨0, none, 0, false⟩

/-- An open bracket, with the suspended level around it. -/
structure Frame where
  bracket : Bracket
  start : Nat
  outer : Level
  layout : Layout
  deriving DecidableEq, Repr

/-- The state between two tokens. `afterOperand` says whether an operand has just ended, and
`textGap` whether text has come since. -/
structure State where
  level : Level
  frames : List Frame
  afterOperand : Bool
  textGap : Bool
  assignment : Option Step
  deriving DecidableEq, Repr

def State.initial : State := ⟨.empty, [], false, false, none⟩

namespace State

def emit (s : State) (step : Step) : State :=
  { s with level := { s.level with output := s.level.output ++ [step] } }

def endOperand (s : State) : State := { s with afterOperand := true, textGap := false }

def pushOperator (s : State) (w : Waiting) : State :=
  { s with level := s.level.wait w, afterOperand := false, textGap := false }

/-- Multiply with the operand just before, if no text stands between. -/
def beginOperand (s : State) : State :=
  if s.afterOperand && !s.textGap then s.pushOperator ⟨.operator .mul, none, none⟩ else s

def openBracket (s : State) (b : Bracket) (start : Nat) : State :=
  let s := s.beginOperand
  { s with
    level := .empty
    frames := ⟨b, start, s.level, .empty⟩ :: s.frames
    afterOperand := false
    textGap := false }

/-- End a cell, and its row too where `endsRow` says so. -/
def endCell (s : State) (frame : Frame) (outer : List Frame) (endsRow : Bool) :
    Except BracketFault State :=
  if !s.afterOperand then .error .emptyCell
  else
    let current := frame.layout.current + 1
    let layout? : Except BracketFault Layout :=
      if !endsRow then .ok { frame.layout with current, hasSeparator := true }
      else match frame.layout.cols? with
        | none => .ok ⟨frame.layout.rows + 1, some current, 0, true⟩
        | some cols =>
            if current = cols then .ok ⟨frame.layout.rows + 1, some cols, 0, true⟩
            else .error .raggedRows
    layout?.map fun layout =>
      { s with
        level := s.level.flush
        frames := { frame with layout } :: outer
        afterOperand := false
        textGap := false }

/-- Close a group. Without any step in it, it counts as text. -/
def closeGroup (s : State) (frame : Frame) (outer : List Frame) : State :=
  let inner := s.level.flush
  let s := { s with
    level := { frame.outer with output := frame.outer.output ++ inner.output }
    frames := outer }
  if inner.output.isEmpty then { s with afterOperand := false, textGap := true }
  else s.endOperand

/-- Close a matrix, ending its last row. -/
def closeMatrix (s : State) (frame : Frame) (outer : List Frame) : Except BracketFault State := do
  let s ← s.endCell frame outer true
  match s.frames with
  | [] => .error .unexpectedClosing
  | frame :: outer =>
      let step : Step :=
        ⟨.matrix frame.layout.rows (frame.layout.cols?.getD 0), some frame.start, none⟩
      pure { s with
        level := { frame.outer with output := frame.outer.output ++ s.level.output ++ [step] }
        frames := outer }.endOperand

def close (s : State) (b : Bracket) : Except BracketFault State :=
  match s.frames with
  | [] => .error .unexpectedClosing
  | frame :: outer =>
      if frame.bracket ≠ b then .error .unexpectedClosing
      else if frame.layout.hasSeparator then s.closeMatrix frame outer
      else .ok (s.closeGroup frame outer)

/-- A comma or a semicolon: text, except directly inside square brackets. -/
def separate (s : State) (endsRow : Bool) : Except BracketFault State :=
  match s.frames with
  | [] => .ok { s with textGap := true }
  | frame :: outer =>
      if frame.bracket = .square then s.endCell frame outer endsRow
      else .ok { s with textGap := true }

/-- Take one token. -/
def take (s : State) (t : Token) : Except BracketFault State :=
  let step (a : Action) : Step := ⟨a, some t.start, some t.stop⟩
  let waiting (p : PendingOp) : Waiting := ⟨p, some t.start, some t.stop⟩
  match t.lexeme with
  | .text _ => .ok (if t.lexeme.isBlank then s else { s with textGap := true })
  | .operand o => .ok (s.beginOperand.emit (step (.push o))).endOperand
  | .unit u =>
      .ok (if s.afterOperand && !s.textGap then s.emit (step (.attach u))
        else { s with textGap := true })
  | .conversion u =>
      .ok ({ s with level := s.level.flush }.emit (step (.convert u))).endOperand
  | .opening b => .ok (s.openBracket b t.start)
  | .closing b => s.close b
  | .comma => s.separate false
  | .semicolon => s.separate true
  | .assign => .ok { State.initial with assignment := some (step .assign) }
  | .operator op =>
      .ok (if s.afterOperand then s.pushOperator (waiting (.operator op))
        else match op with
          | .sub =>
              { s with level := { s.level with waiting := waiting .minus :: s.level.waiting } }
          | .add => s
          | _ => s.pushOperator (waiting (.operator op)))

/-- The level outside of all brackets. -/
def outermost (s : State) : Level :=
  match s.frames.getLast? with
  | some frame => frame.outer
  | none => s.level

end State

/-- Take all tokens. After a fault the state before the token at fault comes with it. -/
def run : State → List Token → State × Option BracketFault
  | s, [] => (s, if s.frames.isEmpty then none else some .unclosed)
  | s, t :: rest =>
      match s.take t with
      | .ok s => run s rest
      | .error fault => (s, some fault)

/-- The steps of a line in the order of evaluation; an assignment comes last. -/
def ofTokens (tokens : List Token) : List Step :=
  let s := (run .initial tokens).1
  s.outermost.flush.output ++ s.assignment.toList

/-- The fault in the brackets of a line, if there is one. -/
def fault? (tokens : List Token) : Option BracketFault := (run .initial tokens).2

end Postfix
end CalcSheet
