import CalcSheet.Postfix

/-!
# Outlines

Putting tokens into postfix order does not depend on where they stand, on which lines they refer to
or on what a text says, but only on whether it is blank. The outline of a token leaves all that
out; the outline of the steps of a line is made from the outlines of its tokens.
-/
namespace CalcSheet
variable {g : LineId → LineId}

/-- The operand with the lines renamed. -/
def Operand.rename (g : LineId → LineId) : Operand → Operand
  | .reference line => .reference (g line)
  | o => o

def Lexeme.outline (g : LineId → LineId) : Lexeme → Lexeme
  | .text t => .text (if t.all Text.isBlank then [] else ['#'])
  | .operand o => .operand (o.rename g)
  | lexeme => lexeme

def Token.outline (g : LineId → LineId) (t : Token) : Token := ⟨t.lexeme.outline g, 0, 0⟩

def Action.rename (g : LineId → LineId) : Action → Action
  | .push o => .push (o.rename g)
  | action => action

/-- Only whether there is a position. -/
def someplace (position? : Option Nat) : Option Nat := position?.map fun _ => 0

def Step.outline (g : LineId → LineId) (s : Step) : Step :=
  ⟨s.action.rename g, someplace s.start?, someplace s.stop?⟩

@[simp] theorem Lexeme.isBlank_outline (lexeme : Lexeme) :
    (lexeme.outline g).isBlank = lexeme.isBlank := by
  cases lexeme with
  | text t =>
    simp only [outline, isBlank]
    cases blank : t.all Text.isBlank <;> rfl
  | operand o => cases o <;> rfl
  | _ => rfl

namespace Postfix

def Waiting.outline (w : Waiting) : Waiting := ⟨w.operator, someplace w.start?, someplace w.stop?⟩

def Level.outline (g : LineId → LineId) (l : Level) : Level :=
  ⟨l.output.map (Step.outline g), l.waiting.map Waiting.outline⟩

def Frame.outline (g : LineId → LineId) (f : Frame) : Frame :=
  ⟨f.bracket, 0, f.outer.outline g, f.layout⟩

def State.outline (g : LineId → LineId) (s : State) : State where
  level := s.level.outline g
  frames := s.frames.map (Frame.outline g)
  afterOperand := s.afterOperand
  textGap := s.textGap
  assignment := s.assignment.map (Step.outline g)

theorem Waiting.toStep_outline (w : Waiting) : w.outline.toStep = w.toStep.outline g := by
  unfold toStep outline Step.outline
  cases w.operator <;> rfl

theorem map_toStep_outline (ws : List Waiting) :
    (ws.map Waiting.toStep).map (Step.outline g) = (ws.map Waiting.outline).map Waiting.toStep := by
  simp [Waiting.toStep_outline (g := g)]

namespace Level

theorem outline_flush (l : Level) : l.flush.outline g = (l.outline g).flush := by
  simp only [flush, outline, List.map_append, map_toStep_outline, List.map_nil]

theorem outline_wait (l : Level) (w : Waiting) :
    (l.wait w).outline g = (l.outline g).wait w.outline := by
  have finished (p : PendingOp → Bool) : (l.waiting.map Waiting.outline).takeWhile (p ·.operator)
      = (l.waiting.takeWhile (p ·.operator)).map Waiting.outline := by
    rw [List.takeWhile_map]
    rfl
  let closes (v : PendingOp) : Bool := !(decide (v.rank < w.operator.rank)
    || (v.rank == w.operator.rank && w.operator == .operator .pow))
  change outline g ⟨l.output ++ (l.waiting.takeWhile (closes ·.operator)).map Waiting.toStep,
      w :: l.waiting.drop (l.waiting.takeWhile (closes ·.operator)).length⟩
    = ⟨l.output.map (Step.outline g)
        ++ ((l.waiting.map Waiting.outline).takeWhile (closes ·.operator)).map Waiting.toStep,
      w.outline :: (l.waiting.map Waiting.outline).drop
        ((l.waiting.map Waiting.outline).takeWhile (closes ·.operator)).length⟩
  rw [finished, outline, List.map_append, map_toStep_outline, List.map_cons, List.map_drop,
    List.length_map]

end Level

namespace State

theorem outline_emit (s : State) (step : Step) :
    (s.emit step).outline g = (s.outline g).emit (step.outline g) := by
  simp [emit, outline, Level.outline]

theorem outline_endOperand (s : State) : s.endOperand.outline g = (s.outline g).endOperand := rfl

theorem outline_pushOperator (s : State) (w : Waiting) :
    (s.pushOperator w).outline g = (s.outline g).pushOperator w.outline := by
  simp [pushOperator, outline, Level.outline_wait]

theorem outline_beginOperand (s : State) :
    s.beginOperand.outline g = (s.outline g).beginOperand := by
  unfold beginOperand
  split
  · next multiplies =>
    rw [if_pos (by exact multiplies), outline_pushOperator]
    rfl
  · next apart => rw [if_neg (by exact apart)]

theorem outline_openBracket (s : State) (b : Bracket) (start : Nat) :
    (s.openBracket b start).outline g = (s.outline g).openBracket b 0 := by
  simp only [openBracket, ← outline_beginOperand]
  rfl

theorem outline_endCell (s : State) (frame : Frame) (outer : List Frame) (endsRow : Bool) :
    (s.endCell frame outer endsRow).map (outline g)
      = (s.outline g).endCell (frame.outline g) (outer.map (Frame.outline g)) endsRow := by
  have layout : (frame.outline g).layout = frame.layout := rfl
  have after : (s.outline g).afterOperand = s.afterOperand := rfl
  unfold endCell
  rw [after, layout]
  split
  · rfl
  · dsimp only
    split
    · simp [Except.map, outline, Level.outline_flush, Frame.outline]
    · cases frame.layout.cols? with
      | none => simp [Except.map, outline, Level.outline_flush, Frame.outline]
      | some cols =>
        dsimp only
        split
        · simp [Except.map, outline, Level.outline_flush, Frame.outline]
        · rfl

theorem outline_closeGroup (s : State) (frame : Frame) (outer : List Frame) :
    (s.closeGroup frame outer).outline g
      = (s.outline g).closeGroup (frame.outline g) (outer.map (Frame.outline g)) := by
  have inner : (s.outline g).level.flush = s.level.flush.outline g := (Level.outline_flush _).symm
  have empty : (s.level.flush.outline g).output.isEmpty = s.level.flush.output.isEmpty := by
    simp [Level.outline]
  simp only [closeGroup, inner, empty]
  split <;> simp [outline, endOperand, Level.outline, Frame.outline]

theorem outline_closeMatrix (s : State) (frame : Frame) (outer : List Frame) :
    (s.closeMatrix frame outer).map (outline g)
      = (s.outline g).closeMatrix (frame.outline g) (outer.map (Frame.outline g)) := by
  rw [closeMatrix, closeMatrix, ← outline_endCell]
  cases s.endCell frame outer true with
  | error fault => rfl
  | ok s =>
    rcases s with ⟨level, frames, after, gap, assignment⟩
    cases frames with
    | nil => rfl
    | cons frame outer =>
      change Except.ok _ = Except.ok _
      simp [outline, endOperand, Level.outline, Frame.outline, Step.outline, Action.rename,
        someplace]

theorem outline_close (s : State) (b : Bracket) :
    (s.close b).map (outline g) = (s.outline g).close b := by
  have frames : (s.outline g).frames = s.frames.map (Frame.outline g) := rfl
  unfold close
  rw [frames]
  cases s.frames with
  | nil => rfl
  | cons frame outer =>
    have bracket : (frame.outline g).bracket = frame.bracket := rfl
    have layout : (frame.outline g).layout = frame.layout := rfl
    simp only [List.map_cons, bracket, layout]
    split
    · rfl
    · split
      · exact outline_closeMatrix s frame outer
      · exact congrArg Except.ok (outline_closeGroup s frame outer)

theorem outline_separate (s : State) (endsRow : Bool) :
    (s.separate endsRow).map (outline g) = (s.outline g).separate endsRow := by
  have frames : (s.outline g).frames = s.frames.map (Frame.outline g) := rfl
  unfold separate
  rw [frames]
  cases s.frames with
  | nil => rfl
  | cons frame outer =>
    have bracket : (frame.outline g).bracket = frame.bracket := rfl
    simp only [List.map_cons, bracket]
    split
    · exact outline_endCell s frame outer endsRow
    · rfl

/-- The outline of what a token makes of a state. -/
theorem outline_take (s : State) (t : Token) :
    (s.take t).map (outline g) = (s.outline g).take (t.outline g) := by
  obtain ⟨lexeme, start, stop⟩ := t
  have after : (s.outline g).afterOperand = s.afterOperand := rfl
  have gap : (s.outline g).textGap = s.textGap := rfl
  cases lexeme with
  | text t =>
    have blank := Lexeme.isBlank_outline (g := g) (.text t)
    unfold take
    simp only [Token.outline, Lexeme.outline] at blank ⊢
    simp only [blank]
    split <;> rfl
  | operand o =>
    change Except.ok _ = Except.ok _
    rw [outline_endOperand, outline_emit, outline_beginOperand]
    rfl
  | unit u =>
    change Except.ok _ = Except.ok _
    rw [after, gap]
    split
    · rw [outline_emit]
      rfl
    · rfl
  | conversion u =>
    change Except.ok _ = Except.ok _
    rw [outline_endOperand, outline_emit]
    simp only [outline, Level.outline_flush]
    rfl
  | opening b => exact congrArg Except.ok (outline_openBracket s b start)
  | closing b => exact outline_close s b
  | comma => exact outline_separate s false
  | semicolon => exact outline_separate s true
  | assign => rfl
  | operator op =>
    change Except.ok _ = Except.ok _
    rw [after]
    split
    · rw [outline_pushOperator]
      rfl
    · cases op with
      | sub => rfl
      | add => rfl
      | _ =>
        rw [outline_pushOperator]
        rfl

theorem outline_outermost (s : State) : s.outermost.outline g = (s.outline g).outermost := by
  simp only [outermost, outline, List.getLast?_map]
  cases s.frames.getLast? <;> rfl

end State

theorem outline_run (s : State) (tokens : List Token) :
    (run s tokens).1.outline g = (run (s.outline g) (tokens.map (Token.outline g))).1 := by
  induction tokens generalizing s with
  | nil => rfl
  | cons t rest ih =>
    have step := State.outline_take (g := g) s t
    simp only [run, List.map_cons, ← step]
    cases s.take t with
    | ok s => exact ih s
    | error fault => rfl

/-- The outlines of the steps of a line are the steps of the outlines of its tokens. -/
theorem map_outline_ofTokens (tokens : List Token) :
    (ofTokens tokens).map (Step.outline g) = ofTokens (tokens.map (Token.outline g)) := by
  have final := outline_run (g := g) .initial tokens
  have outermost := State.outline_outermost (g := g) (run .initial tokens).1
  simp only [ofTokens, List.map_append]
  have initial : State.initial.outline g = .initial := rfl
  rw [initial] at final
  rw [← final, ← outermost, ← Level.outline_flush]
  congr 1
  simp only [State.outline]
  cases (run .initial tokens).1.assignment <;> rfl

end Postfix
end CalcSheet
