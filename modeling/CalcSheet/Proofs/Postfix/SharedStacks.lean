import CalcSheet.Proofs.Lists
import CalcSheet.Proofs.Postfix.Emitted

/-!
# Postfix order on shared stacks

All levels of a line fit on one list of finished items and one stack of operators, where opening
brackets stand between the operators of the levels. An open bracket then only needs to remember how
many items there were when it opened.

Nothing about such stacks keeps them from being popped when they are empty, or from holding what
has no rank. That this never happens follows from what they stand for: the nested levels of a state
laid out side by side.
-/
namespace CalcSheet.Postfix

/-- What an item stands for: a token, a minus sign before an operand, or a matrix. -/
inductive Mark where
  | lexeme (l : Lexeme)
  | minus
  | matrix (rows cols : Nat)
  deriving DecidableEq, Repr

/-- An item on the stacks. Of an opening bracket, as of a matrix, only the beginning is known. -/
structure Item where
  mark : Mark
  start? : Option Nat
  stop? : Option Nat
  deriving DecidableEq, Repr

namespace Item

def isOpening (item : Item) : Bool :=
  match item.mark with
  | .lexeme (.opening _) => true
  | _ => false

/-- How tight an operator binds. Other items have no rank. -/
def rank? (item : Item) : Option Nat :=
  match item.mark with
  | .lexeme (.operator op) => some (PendingOp.operator op).rank
  | .minus => some PendingOp.minus.rank
  | _ => none

def bindsRight (item : Item) : Bool := item.mark == .lexeme (.operator .pow)

end Item

/-- An open bracket, with the numbers of finished and of waiting items when it opened. -/
structure Opened where
  bracket : Bracket
  start : Nat
  finished : Nat
  pending : Nat
  layout : Layout
  deriving DecidableEq, Repr

def Opened.item (frame : Opened) : Item :=
  ⟨.lexeme (.opening frame.bracket), some frame.start, none⟩

/-- The state between two tokens on shared stacks, the latest operator and the innermost bracket
first. -/
structure Stacks where
  output : List Item
  operators : List Item
  frames : List Opened
  afterOperand : Bool
  textGap : Bool
  assignment : Option Item
  deriving DecidableEq, Repr

/-- Brackets at fault leave stacks behind, on which the line ends. Nothing goes on after another
failure. -/
inductive Failure where
  | brackets (fault : BracketFault) (left : Stacks)
  | emptyStack
  | noRank
  deriving DecidableEq, Repr

namespace Stacks

def initial : Stacks := ⟨[], [], [], false, false, none⟩

def emit (s : Stacks) (item : Item) : Stacks := { s with output := s.output ++ [item] }

def endOperand (s : Stacks) : Stacks := { s with afterOperand := true, textGap := false }

def awaitOperand (s : Stacks) : Stacks := { s with afterOperand := false, textGap := false }

/-- Finish operators up to an opening bracket, or one that a new operator leaves open. -/
def settle (rank : Nat) (bindsRight : Bool) :
    List Item → List Item → Except Failure (List Item × List Item)
  | output, [] => .ok (output, [])
  | output, top :: rest =>
      if top.isOpening then .ok (output, top :: rest)
      else match top.rank? with
        | none => .error .noRank
        | some above =>
            if above < rank || (above == rank && bindsRight) then .ok (output, top :: rest)
            else settle rank bindsRight (output ++ [top]) rest

def pushOperator (s : Stacks) (item : Item) : Except Failure Stacks :=
  match item.rank? with
  | none => .error .noRank
  | some rank => do
      let (output, operators) ← settle rank item.bindsRight s.output s.operators
      pure { s with output, operators := item :: operators }.awaitOperand

def beginOperand (s : Stacks) : Except Failure Stacks :=
  if s.afterOperand && !s.textGap then s.pushOperator ⟨.lexeme (.operator .mul), none, none⟩
  else .ok s

/-- Finish all operators above the latest opening bracket. -/
def popUntilOpening (s : Stacks) : Stacks :=
  { s with
    output := s.output ++ s.operators.takeWhile (!·.isOpening)
    operators := s.operators.dropWhile (!·.isOpening) }

def popOperator (s : Stacks) : Except Failure Stacks :=
  match s.operators with
  | [] => .error .emptyStack
  | _ :: operators => .ok { s with operators }

def popFrame (s : Stacks) : Except Failure (Opened × Stacks) :=
  match s.frames with
  | [] => .error .emptyStack
  | frame :: frames => .ok (frame, { s with frames })

def openBracket (s : Stacks) (b : Bracket) (start : Nat) : Except Failure Stacks := do
  let s ← s.beginOperand
  let frame : Opened := ⟨b, start, s.output.length, s.operators.length, .empty⟩
  pure { s with operators := frame.item :: s.operators, frames := frame :: s.frames }.awaitOperand

def setLayout (s : Stacks) (layout : Layout) : Stacks :=
  { s with frames := s.frames.modifyHead ({ · with layout }) }

/-- End a cell, and its row too where `endsRow` says so. At a fault the operators of the cell have
been finished, and the cell may have been counted. -/
def endCell (s : Stacks) (endsRow : Bool) : Except Failure Stacks :=
  match s.frames with
  | [] => .error .emptyStack
  | frame :: _ =>
      let s := s.popUntilOpening
      let current := frame.layout.current + 1
      let counted : Layout := { frame.layout with current, hasSeparator := true }
      if !s.afterOperand then .error (.brackets .emptyCell s)
      else if !endsRow then .ok (s.setLayout counted).awaitOperand
      else if frame.layout.cols?.any (· ≠ current) then
        .error (.brackets .raggedRows (s.setLayout counted))
      else .ok (s.setLayout ⟨frame.layout.rows + 1, some current, 0, true⟩).awaitOperand

/-- Close a group. It counts as text if nothing has come since it opened. -/
def closeGroup (s : Stacks) : Except Failure Stacks := do
  let (frame, s) ← s.popFrame
  let s ← s.popUntilOpening.popOperator
  if s.output.length = frame.finished then pure { s with afterOperand := false, textGap := true }
  else pure s.endOperand

def closeMatrix (s : Stacks) : Except Failure Stacks := do
  let s ← s.endCell true
  let (frame, s) ← s.popFrame
  let s ← s.popOperator
  let mark : Mark := .matrix frame.layout.rows (frame.layout.cols?.getD 0)
  pure (s.emit ⟨mark, some frame.start, none⟩).endOperand

def close (s : Stacks) (b : Bracket) : Except Failure Stacks :=
  match s.frames with
  | [] => .error (.brackets .unexpectedClosing s)
  | frame :: _ =>
      if frame.bracket ≠ b then .error (.brackets .unexpectedClosing s)
      else if frame.bracket = .square ∧ frame.layout.hasSeparator then s.closeMatrix
      else s.closeGroup

def separate (s : Stacks) (endsRow : Bool) : Except Failure Stacks :=
  if s.frames.head?.any (·.bracket == .square) then s.endCell endsRow
  else .ok { s with textGap := true }

/-- Take one token. -/
def take (s : Stacks) (t : Token) : Except Failure Stacks :=
  let item : Item := ⟨.lexeme t.lexeme, some t.start, some t.stop⟩
  match t.lexeme with
  | .text _ => .ok (if t.lexeme.isBlank then s else { s with textGap := true })
  | .operand _ => do
      let s ← s.beginOperand
      pure (s.emit item).endOperand
  | .unit _ =>
      .ok (if s.afterOperand && !s.textGap then s.emit item else { s with textGap := true })
  | .conversion _ => .ok (s.popUntilOpening.emit item).endOperand
  | .opening b => s.openBracket b t.start
  | .closing b => s.close b
  | .comma => s.separate false
  | .semicolon => s.separate true
  | .assign => .ok { initial with assignment := some item }
  | .operator op =>
      if s.afterOperand then s.pushOperator item
      else match op with
        | .sub => .ok { s with operators := ⟨.minus, some t.start, some t.stop⟩ :: s.operators }
        | .add => .ok s
        | _ => s.pushOperator item

def run : Stacks → List Token → Except Failure Stacks
  | s, [] => if s.frames.isEmpty then .ok s else .error (.brackets .unclosed s)
  | s, t :: rest => do
      let s ← s.take t
      run s rest

/-- Cut the stacks back to the outermost open bracket. -/
def truncate (s : Stacks) : Stacks :=
  match s.frames.getLast? with
  | none => s
  | some outermost =>
      { s with
        output := s.output.take outermost.finished
        operators := s.operators.rtake outermost.pending
        frames := [] }

/-- Brackets at fault end a line early. Other failures remain. -/
def recover : Except Failure Stacks → Except Failure Stacks
  | .error (.brackets _ left) => .ok left.truncate
  | result => result

/-- The items of a line in the order of evaluation; an assignment comes last. -/
def reduce (tokens : List Token) : Except Failure (List Item) := do
  let s ← recover (run .initial tokens)
  pure (s.output ++ s.operators.filter (!·.isOpening) ++ s.assignment.toList)

/-- The stacks before and after each token, those that a fault in the brackets leaves, and what
these are cut back to. -/
def trace : Stacks → List Token → List Stacks
  | s, [] => [s, s.truncate]
  | s, t :: rest => s :: match s.take t with
      | .ok next => trace next rest
      | .error (.brackets _ left) => [left, left.truncate]
      | .error _ => []

end Stacks

/-! ### Nested levels side by side -/

def Mark.ofAction : Action → Mark
  | .push o => .lexeme (.operand o)
  | .operate op => .lexeme (.operator op)
  | .negate => .minus
  | .attach u => .lexeme (.unit u)
  | .convert u => .lexeme (.conversion u)
  | .matrix rows cols => .matrix rows cols
  | .assign => .lexeme .assign

namespace Item

def ofStep (step : Step) : Item := ⟨.ofAction step.action, step.start?, step.stop?⟩

def ofWaiting (w : Waiting) : Item := ofStep w.toStep

variable (w : Waiting)

@[simp] theorem isOpening_ofWaiting : (ofWaiting w).isOpening = false := by
  rcases w with ⟨_ | _, _, _⟩ <;> rfl

@[simp] theorem rank?_ofWaiting : (ofWaiting w).rank? = some w.operator.rank := by
  rcases w with ⟨_ | _, _, _⟩ <;> rfl

@[simp] theorem bindsRight_ofWaiting :
    (ofWaiting w).bindsRight = (w.operator == .operator .pow) := by
  rcases w with ⟨(_ | _ | _ | _ | _) | _, _, _⟩ <;> rfl

end Item

/-- The finished steps of the levels around open brackets. -/
def finishedAround : List Frame → List Step
  | [] => []
  | frame :: outer => finishedAround outer ++ frame.outer.output

/-- The items that wait around open brackets, with the brackets between them. -/
def pendingAround : List Frame → List Item
  | [] => []
  | frame :: outer => ⟨.lexeme (.opening frame.bracket), some frame.start, none⟩
      :: (frame.outer.waiting.map .ofWaiting ++ pendingAround outer)

def Opened.ofFrame (frame : Frame) (outer : List Frame) : Opened where
  bracket := frame.bracket
  start := frame.start
  finished := (finishedAround outer ++ frame.outer.output).length
  pending := (frame.outer.waiting.map Item.ofWaiting ++ pendingAround outer).length
  layout := frame.layout

@[simp] theorem Opened.bracket_ofFrame (frame : Frame) (outer : List Frame) :
    (ofFrame frame outer).bracket = frame.bracket := rfl

@[simp] theorem Opened.layout_ofFrame (frame : Frame) (outer : List Frame) :
    (ofFrame frame outer).layout = frame.layout := rfl

def opened : List Frame → List Opened
  | [] => []
  | frame :: outer => .ofFrame frame outer :: opened outer

theorem isOpening_of_mem_head?_pendingAround (frames : List Frame) :
    ∀ item ∈ (pendingAround frames).head?, item.isOpening = true := by
  cases frames with
  | nil => simp [pendingAround]
  | cons frame outer => simp [pendingAround, Item.isOpening]

theorem Level.wait_cons (output : List Step) (v w : Waiting) (rest : List Waiting) :
    wait ⟨output, v :: rest⟩ w
      = if v.operator.rank < w.operator.rank
          || (v.operator.rank == w.operator.rank && w.operator == .operator .pow) then
        ⟨output, w :: v :: rest⟩
      else wait ⟨output ++ [v.toStep], rest⟩ w := by
  simp only [wait, List.takeWhile_cons]
  split <;> split <;> simp_all

namespace State
variable {s : State} {frame : Frame} {outer : List Frame}

/-- All levels of a state on shared stacks. -/
def shared (s : State) : Stacks where
  output := (finishedAround s.frames ++ s.level.output).map .ofStep
  operators := s.level.waiting.map .ofWaiting ++ pendingAround s.frames
  frames := opened s.frames
  afterOperand := s.afterOperand
  textGap := s.textGap
  assignment := s.assignment.map .ofStep

theorem afterOperand_shared (s : State) : s.shared.afterOperand = s.afterOperand := rfl

theorem textGap_shared (s : State) : s.shared.textGap = s.textGap := rfl

theorem frames_shared (frames : s.frames = frame :: outer) :
    s.shared.frames = .ofFrame frame outer :: opened outer := by
  rw [shared, frames, opened]

/-- Only the level outside of all brackets. -/
def truncated (s : State) : State := { s with level := s.outermost, frames := [] }

/-! ### Operators -/

/-- Between two opening brackets the operators are those of one level. -/
theorem settle_level (w : Waiting) (done around : List Item)
    (bottom : ∀ item ∈ around.head?, item.isOpening = true) (output : List Step)
    (waiting : List Waiting) :
    ∃ operators, Stacks.settle w.operator.rank (w.operator == .operator .pow)
        (done ++ output.map .ofStep) (waiting.map .ofWaiting ++ around)
        = .ok (done ++ (Level.wait ⟨output, waiting⟩ w).output.map .ofStep, operators)
      ∧ Item.ofWaiting w :: operators
        = (Level.wait ⟨output, waiting⟩ w).waiting.map .ofWaiting ++ around := by
  induction waiting generalizing output with
  | nil =>
    refine ⟨around, ?_, rfl⟩
    cases around with
    | nil => simp [Stacks.settle, Level.wait]
    | cons top rest =>
      have opening : top.isOpening = true := bottom top rfl
      simp [Stacks.settle, Level.wait, opening]
  | cons v waiting ih =>
    rw [Level.wait_cons]
    simp only [List.map_cons, List.cons_append, Stacks.settle, Item.isOpening_ofWaiting,
      Item.rank?_ofWaiting, Bool.false_eq_true, if_false]
    split
    · exact ⟨_, rfl, rfl⟩
    · have next := ih (output ++ [v.toStep])
      rwa [List.map_append, ← List.append_assoc] at next

theorem shared_pushOperator (s : State) (w : Waiting) :
    s.shared.pushOperator (.ofWaiting w) = .ok (s.pushOperator w).shared := by
  obtain ⟨operators, settled, all⟩ := settle_level w ((finishedAround s.frames).map .ofStep) _
    (isOpening_of_mem_head?_pendingAround s.frames) s.level.output s.level.waiting
  simp only [Stacks.pushOperator, Item.rank?_ofWaiting, Item.bindsRight_ofWaiting, shared,
    List.map_append, settled]
  simp [bind, Except.bind, pure, Except.pure, all, pushOperator, Stacks.awaitOperand]

theorem shared_beginOperand (s : State) : s.shared.beginOperand = .ok s.beginOperand.shared := by
  unfold Stacks.beginOperand beginOperand
  rw [afterOperand_shared, textGap_shared]
  split
  · exact s.shared_pushOperator ⟨.operator .mul, none, none⟩
  · rfl

theorem shared_emit (s : State) (step : Step) :
    s.shared.emit (.ofStep step) = (s.emit step).shared := by
  simp [Stacks.emit, shared, emit]

theorem shared_popUntilOpening (s : State) :
    s.shared.popUntilOpening = { s with level := s.level.flush }.shared := by
  have inside : ∀ item ∈ s.level.waiting.map Item.ofWaiting, (!item.isOpening) = true := by simp
  have stop : ∀ item ∈ (pendingAround s.frames).head?, (!item.isOpening) = false := fun item top =>
    by simp [isOpening_of_mem_head?_pendingAround s.frames item top]
  simp only [Stacks.popUntilOpening, shared, takeWhile_append_of_stop inside stop,
    dropWhile_append_of_stop inside stop]
  simp [Level.flush, Item.ofWaiting, Function.comp_def]

/-! ### Brackets -/

theorem shared_openBracket (s : State) (b : Bracket) (start : Nat) :
    s.shared.openBracket b start = .ok (s.openBracket b start).shared := by
  rw [Stacks.openBracket, shared_beginOperand]
  simp [bind, Except.bind, pure, Except.pure, shared, openBracket, finishedAround, pendingAround,
    opened, Opened.ofFrame, Opened.item, Level.empty, Stacks.awaitOperand]

theorem shared_closeGroup (frames : s.frames = frame :: outer) :
    s.shared.closeGroup = .ok (s.closeGroup frame outer).shared := by
  have flushed : ({ s.shared with frames := opened outer } : Stacks).popUntilOpening
      = { ({ s with level := s.level.flush } : State).shared with frames := opened outer } :=
    congrArg (fun x : Stacks => { x with frames := opened outer }) s.shared_popUntilOpening
  have waiting : s.level.flush.waiting = [] := rfl
  simp only [Stacks.closeGroup, Stacks.popFrame, frames_shared frames, bind, Except.bind, flushed,
    Stacks.popOperator]
  rw [closeGroup_eq]
  cases none_ : s.level.flush.output with
  | nil =>
    simp [shared, frames, pendingAround, finishedAround, pure, Except.pure, none_, waiting,
      Opened.ofFrame]
  | cons step steps =>
    simp [shared, frames, pendingAround, finishedAround, pure, Except.pure, none_, waiting,
      Opened.ofFrame, Stacks.endOperand]

theorem shared_setLayout (frames : s.frames = frame :: outer) (layout : Layout) :
    s.shared.setLayout layout = { s with frames := { frame with layout } :: outer }.shared := by
  simp [Stacks.setLayout, shared, frames, opened, Opened.ofFrame, finishedAround, pendingAround]

theorem shared_awaitOperand (s : State) :
    s.shared.awaitOperand = { s with afterOperand := false, textGap := false }.shared := rfl

/-- What a token leaves on shared stacks is what it leaves of the levels. At a fault it may be
something else, but not outside of the outermost bracket. -/
def Agrees (s : State) (result : Except Failure Stacks) : Except BracketFault State → Prop
  | .ok next => result = .ok next.shared
  | .error fault => ∃ left : State,
      left.truncated = s.truncated ∧ result = .error (.brackets fault left.shared)

/-- Outside of all brackets, their layout and what is inside of them make no difference. -/
theorem truncated_inside (frames : s.frames = frame :: outer) (level : Level) (layout : Layout) :
    truncated { s with level, frames := { frame with layout } :: outer } = s.truncated := by
  cases outer <;> simp [truncated, outermost, frames, List.getLast?_cons]

theorem agrees_endCell (frames : s.frames = frame :: outer) (endsRow : Bool) :
    s.Agrees (s.shared.endCell endsRow) (s.endCell frame outer endsRow) := by
  let inner (layout : Layout) : State :=
    { s with level := s.level.flush, frames := { frame with layout } :: outer }
  have flushed : s.shared.popUntilOpening = (inner frame.layout).shared := by
    rw [shared_popUntilOpening, frames]
  have relaid (layout : Layout) :
      (inner frame.layout).shared.setLayout layout = (inner layout).shared :=
    shared_setLayout rfl layout
  have outside (layout : Layout) : (inner layout).truncated = s.truncated :=
    truncated_inside frames _ layout
  have after (layout : Layout) : (inner layout).shared.afterOperand = s.afterOperand := rfl
  simp only [Stacks.endCell, frames_shared frames, flushed, relaid, after, endCell,
    shared_awaitOperand, Opened.layout_ofFrame]
  cases s.afterOperand with
  | false => exact ⟨inner frame.layout, outside _, rfl⟩
  | true =>
    cases endsRow with
    | false => rfl
    | true =>
      cases known : frame.layout.cols? with
      | none => rfl
      | some cols =>
        by_cases width : frame.layout.current + 1 = cols
        · simp only [Option.any_some, width, ne_eq, not_true, decide_false, ↓reduceIte]
          rfl
        · have ragged : cols ≠ frame.layout.current + 1 := Ne.symm width
          simp only [Option.any_some, ragged, width, ne_eq, not_false_eq_true, decide_true,
            ↓reduceIte]
          exact ⟨inner _, outside _, rfl⟩

theorem agrees_closeMatrix (frames : s.frames = frame :: outer) :
    s.Agrees s.shared.closeMatrix (s.closeMatrix frame outer) := by
  have cell := agrees_endCell frames true
  unfold Stacks.closeMatrix closeMatrix
  cases ended : s.endCell frame outer true with
  | error fault =>
    rw [ended] at cell
    obtain ⟨left, outside, failed⟩ := cell
    exact ⟨left, outside, by rw [failed]; rfl⟩
  | ok s' =>
    rw [ended] at cell
    have done : s.shared.endCell true = .ok s'.shared := cell
    obtain ⟨-, -, rfl⟩ := endCell_eq_ok_iff.1 ended
    rw [done]
    simp [Agrees, bind, Except.bind, pure, Except.pure, Stacks.popFrame, Stacks.popOperator, shared,
      opened, Opened.ofFrame, finishedAround, pendingAround, Level.flush, endOperand,
      Stacks.endOperand, Stacks.emit, Item.ofStep, Mark.ofAction]

/-- Only square brackets have cells. -/
def Plain (s : State) : Prop :=
  ∀ frame ∈ s.frames, frame.layout.hasSeparator = true → frame.bracket = .square

theorem agrees_close (plain : s.Plain) (b : Bracket) : s.Agrees (s.shared.close b) (s.close b) := by
  unfold Stacks.close close
  cases frames : s.frames with
  | nil => exact ⟨s, rfl, by rw [shared, frames]; rfl⟩
  | cons frame outer =>
    by_cases fits : frame.bracket = b
    · subst fits
      by_cases cells : frame.layout.hasSeparator = true
      · have square := plain frame (by rw [frames]; exact List.mem_cons_self) cells
        simpa [frames_shared frames, cells, square] using agrees_closeMatrix frames
      · simpa [frames_shared frames, cells, Agrees] using shared_closeGroup frames
    · simp only [frames_shared frames, Opened.bracket_ofFrame, fits, ne_eq, not_false_eq_true,
        ↓reduceIte]
      exact ⟨s, rfl, rfl⟩

theorem agrees_separate (s : State) (endsRow : Bool) :
    s.Agrees (s.shared.separate endsRow) (s.separate endsRow) := by
  unfold Stacks.separate separate
  cases frames : s.frames with
  | nil => simp [Agrees, shared, frames, opened]
  | cons frame outer =>
    by_cases square : frame.bracket = .square
    · simpa [frames_shared frames, square] using agrees_endCell frames endsRow
    · simp [Agrees, shared, frames, opened, square]

theorem agrees_take (plain : s.Plain) (t : Token) : s.Agrees (s.shared.take t) (s.take t) := by
  unfold Stacks.take take
  cases lexeme : t.lexeme with
  | text u =>
    dsimp only
    split <;> rfl
  | operand o =>
    rw [shared_beginOperand]
    exact congrArg (fun s : Stacks => Except.ok s.endOperand)
      (s.beginOperand.shared_emit ⟨.push o, some t.start, some t.stop⟩)
  | unit u =>
    dsimp only
    rw [afterOperand_shared, textGap_shared]
    split
    · exact congrArg Except.ok (s.shared_emit ⟨.attach u, some t.start, some t.stop⟩)
    · rfl
  | conversion u =>
    rw [shared_popUntilOpening]
    exact congrArg (fun s : Stacks => Except.ok s.endOperand)
      (shared_emit _ ⟨.convert u, some t.start, some t.stop⟩)
  | opening b => exact s.shared_openBracket b t.start
  | closing b => exact agrees_close plain b
  | comma => exact s.agrees_separate false
  | semicolon => exact s.agrees_separate true
  | assign => rfl
  | operator op =>
    have waits (op : BinaryOp) := s.shared_pushOperator ⟨.operator op, some t.start, some t.stop⟩
    dsimp only
    rw [afterOperand_shared]
    split
    · exact waits op
    · cases op with
      | sub => rfl
      | add => rfl
      | _ => exact waits _

end State
end CalcSheet.Postfix
