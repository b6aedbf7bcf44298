import CalcSheet.Postfix
import CalcSheet.Proofs.Lists

/-!
# Runs over the tokens of a line

What each kind of token does to a state in which an operand is awaited or has just ended, and how
runs over parts of a line are put together.
-/
namespace CalcSheet.Postfix

/-- The state after some tokens, if no bracket is at fault. -/
def takeAll (s : State) (ts : List Token) : Except BracketFault State := ts.foldlM State.take s

@[simp] theorem takeAll_nil (s : State) : takeAll s [] = .ok s := rfl

@[simp] theorem takeAll_cons (s : State) (t : Token) (ts : List Token) :
    takeAll s (t :: ts) = s.take t >>= fun s => takeAll s ts := rfl

@[simp] theorem takeAll_append (s : State) (ts us : List Token) :
    takeAll s (ts ++ us) = takeAll s ts >>= fun s => takeAll s us := List.foldlM_append

theorem takeAll_append_of_eq {s s' : State} {ts : List Token} (h : takeAll s ts = .ok s')
    (us : List Token) : takeAll s (ts ++ us) = takeAll s' us := by
  rw [takeAll_append, h]
  rfl

theorem takeAll_cons_of_eq {s s' : State} {t : Token} (h : s.take t = .ok s') (ts : List Token) :
    takeAll s (t :: ts) = takeAll s' ts := by
  rw [takeAll_cons, h]
  rfl

theorem run_append_of_takeAll {s s' : State} {ts : List Token} (h : takeAll s ts = .ok s')
    (rest : List Token) : run s (ts ++ rest) = run s' rest := by
  induction ts generalizing s with
  | nil =>
    obtain rfl : s = s' := Except.ok.inj h
    rfl
  | cons t ts ih =>
    rw [List.cons_append, run]
    rw [takeAll_cons] at h
    cases taken : s.take t with
    | error fault => rw [taken] at h; exact nomatch h
    | ok next =>
      rw [taken] at h
      exact ih h

theorem run_eq_of_takeAll {s s' : State} {ts : List Token} (h : takeAll s ts = .ok s') :
    run s ts = run s' [] := by
  simpa using run_append_of_takeAll h []

/-- Where no bracket is at fault, all tokens are taken and all brackets are closed. -/
theorem run_eq_none_iff {s : State} {ts : List Token} :
    (run s ts).2 = none ↔ ∃ s', takeAll s ts = .ok s' ∧ s'.frames = [] := by
  induction ts generalizing s with
  | nil => simp [run]
  | cons t ts ih =>
    rw [run, takeAll_cons]
    cases s.take t with
    | error fault => simp [bind, Except.bind]
    | ok next => exact ih

/-- White space changes nothing. -/
theorem take_blank {s : State} {t : Token} (h : t.lexeme.isBlank = true) : s.take t = .ok s := by
  cases lexeme : t.lexeme with
  | text u => rw [lexeme] at h; simp [State.take, lexeme, h]
  | _ => rw [lexeme] at h; exact nomatch h

theorem run_filter_blank (s : State) (ts : List Token) :
    run s (ts.filter (!·.lexeme.isBlank)) = run s ts := by
  induction ts generalizing s with
  | nil => rfl
  | cons t ts ih =>
    cases h : t.lexeme.isBlank with
    | true => simp [h, ih, run, take_blank h]
    | false =>
      simp only [h, Bool.not_false, List.filter_cons_of_pos, run]
      cases s.take t with
      | error fault => rfl
      | ok next => exact ih next

theorem ofTokens_filter_blank (ts : List Token) :
    ofTokens (ts.filter (!·.lexeme.isBlank)) = ofTokens ts := by
  simp only [ofTokens, run_filter_blank]

/-! ### Levels -/

namespace PendingOp

theorem one_le_rank (p : PendingOp) : 1 ≤ p.rank := by
  rcases p with ⟨_ | _ | _ | _ | _⟩ | _ <;> decide

theorem rank_le_four (p : PendingOp) : p.rank ≤ 4 := by
  rcases p with ⟨_ | _ | _ | _ | _⟩ | _ <;> decide

end PendingOp

namespace Level

/-- Operators that bind tighter than a new one are finished before it waits; the others stay. -/
theorem wait_append (out : List Step) {pending outer : List Waiting} {w : Waiting}
    (finish : ∀ v ∈ pending, w.operator.rank ≤ v.operator.rank
      ∧ (w.operator = .operator .pow → w.operator.rank < v.operator.rank))
    (stay : ∀ v ∈ outer.head?, v.operator.rank < w.operator.rank
      ∨ (v.operator.rank = w.operator.rank ∧ w.operator = .operator .pow)) :
    Level.wait ⟨out, pending ++ outer⟩ w
      = ⟨out ++ pending.map Waiting.toStep, w :: outer⟩ := by
  let finished (v : Waiting) : Bool := !(decide (v.operator.rank < w.operator.rank)
    || (v.operator.rank == w.operator.rank && w.operator == .operator .pow))
  have all : (pending ++ outer).takeWhile finished = pending := by
    apply takeWhile_append_of_stop
    · intro v hv
      obtain ⟨le, lt⟩ := finish v hv
      by_cases pow : w.operator = .operator .pow
      · have := lt pow
        simp only [finished, Bool.not_eq_true', Bool.or_eq_false_iff, decide_eq_false_iff_not,
          Bool.and_eq_false_iff, beq_eq_false_iff_ne]
        omega
      · have other : (w.operator == .operator .pow) = false := by simpa using pow
        simpa [finished, other] using le
    · intro v hv
      rcases stay v hv with lt | ⟨same, pow⟩
      · simp [finished, lt]
      · simp [finished, same, pow]
  change (⟨out ++ ((pending ++ outer).takeWhile finished).map _,
    w :: (pending ++ outer).drop ((pending ++ outer).takeWhile finished).length⟩ : Level) = _
  rw [all, List.drop_left]

end Level

namespace State

/-! ### Single tokens -/

variable {s : State} {t : Token}

theorem beginOperand_of_not_afterOperand (h : s.afterOperand = false) : s.beginOperand = s := by
  simp [beginOperand, h]

theorem frames_beginOperand (s : State) : s.beginOperand.frames = s.frames := by
  unfold beginOperand
  split <;> rfl

theorem assignment_beginOperand (s : State) : s.beginOperand.assignment = s.assignment := by
  unfold beginOperand
  split <;> rfl

/-- An operand that follows another one is taken as if a sign for times stood between them. -/
theorem take_juxtaposed (after : s.afterOperand = true) (near : s.textGap = false)
    (begins : (∃ o, t.lexeme = .operand o) ∨ ∃ b, t.lexeme = .opening b) :
    s.take t = (s.pushOperator ⟨.operator .mul, none, none⟩).take t := by
  have first : s.beginOperand = s.pushOperator ⟨.operator .mul, none, none⟩ := by
    simp [beginOperand, after, near]
  have second := beginOperand_of_not_afterOperand
    (s := s.pushOperator ⟨.operator .mul, none, none⟩) rfl
  obtain ⟨o, h⟩ | ⟨b, h⟩ := begins
  · simp only [take, h, first, second]
  · simp only [take, h, openBracket, first, second]

theorem take_operand {o : Operand} (h : t.lexeme = .operand o) (awaits : s.afterOperand = false) :
    s.take t = .ok { s with
      level := ⟨s.level.output ++ [⟨.push o, some t.start, some t.stop⟩], s.level.waiting⟩
      afterOperand := true
      textGap := false } := by
  simp [take, h, beginOperand_of_not_afterOperand awaits, emit, endOperand]

theorem take_unit {u : Option PhysicalUnit} (h : t.lexeme = .unit u)
    (after : s.afterOperand = true) (near : s.textGap = false) :
    s.take t = .ok { s with
      level := ⟨s.level.output ++ [⟨.attach u, some t.start, some t.stop⟩], s.level.waiting⟩ } := by
  simp [take, h, after, near, emit]

theorem take_conversion {u : Option PhysicalUnit} (h : t.lexeme = .conversion u) :
    s.take t = .ok { s with
      level := ⟨s.level.flush.output ++ [⟨.convert u, some t.start, some t.stop⟩], []⟩
      afterOperand := true
      textGap := false } := by
  simp [take, h, emit, endOperand, Level.flush]

theorem take_minus (h : t.lexeme = .operator .sub) (awaits : s.afterOperand = false) :
    s.take t = .ok { s with
      level := ⟨s.level.output, ⟨.minus, some t.start, some t.stop⟩ :: s.level.waiting⟩ } := by
  simp [take, h, awaits]

theorem take_plus (h : t.lexeme = .operator .add) (awaits : s.afterOperand = false) :
    s.take t = .ok s := by
  simp [take, h, awaits]

theorem take_operator {op : BinaryOp} (h : t.lexeme = .operator op)
    (after : s.afterOperand = true) :
    s.take t = .ok (s.pushOperator ⟨.operator op, some t.start, some t.stop⟩) := by
  simp [take, h, after]

theorem take_opening {b : Bracket} (h : t.lexeme = .opening b) (awaits : s.afterOperand = false) :
    s.take t = .ok { s with
      level := .empty
      frames := ⟨b, t.start, s.level, .empty⟩ :: s.frames
      afterOperand := false
      textGap := false } := by
  simp [take, h, openBracket, beginOperand_of_not_afterOperand awaits]

theorem take_assign (h : t.lexeme = .assign) :
    s.take t
      = .ok { State.initial with assignment := some ⟨.assign, some t.start, some t.stop⟩ } := by
  simp [take, h]

/-- Closing a bracket without separators keeps the steps inside it and forgets the bracket. -/
theorem take_closing_group {b : Bracket} {frame : Frame} {outer : List Frame}
    (h : t.lexeme = .closing b) (frames : s.frames = frame :: outer) (fits : frame.bracket = b)
    (plain : frame.layout.hasSeparator = false) (filled : s.level.flush.output ≠ []) :
    s.take t = .ok { s with
      level := ⟨frame.outer.output ++ s.level.flush.output, frame.outer.waiting⟩
      frames := outer
      afterOperand := true
      textGap := false } := by
  have nonempty : s.level.flush.output.isEmpty = false := by simpa using filled
  simp [take, h, close, frames, fits, plain, closeGroup, nonempty, endOperand]

/-! ### Open brackets -/

/-- A separator ends a cell directly inside of square brackets, and is text anywhere else. -/
theorem separate_eq_ok {s' : State} {endsRow : Bool} (separated : s.separate endsRow = .ok s') :
    ((∀ frame ∈ s.frames.head?, frame.bracket ≠ .square) ∧ s' = { s with textGap := true })
      ∨ ∃ frame outer, s.frames = frame :: outer ∧ frame.bracket = .square
        ∧ s.endCell frame outer endsRow = .ok s' := by
  unfold separate at separated
  split at separated
  · next outside => exact .inl ⟨by simp [outside], (Except.ok.inj separated).symm⟩
  · next frame outer frames =>
    split at separated
    · next square => exact .inr ⟨frame, outer, frames, square, separated⟩
    · next round =>
      exact .inl ⟨by simpa [frames] using round, (Except.ok.inj separated).symm⟩

/-- A closing bracket fits the innermost open one, and closes a matrix if that holds cells. -/
theorem close_eq_ok {s' : State} {b : Bracket} (closed : s.close b = .ok s') :
    ∃ frame outer, s.frames = frame :: outer ∧ frame.bracket = b
      ∧ (frame.layout.hasSeparator = true ∧ s.closeMatrix frame outer = .ok s'
        ∨ frame.layout.hasSeparator = false ∧ s' = s.closeGroup frame outer) := by
  unfold close at closed
  split at closed
  · cases closed
  · next frame outer frames =>
    split at closed
    · cases closed
    · next fits =>
      refine ⟨frame, outer, frames, not_not.1 fits, ?_⟩
      split at closed
      · next matrix => exact .inl ⟨matrix, closed⟩
      · next group => exact .inr ⟨eq_false_of_ne_true group, (Except.ok.inj closed).symm⟩

/-- What a token does to the open brackets. Unless it is a bracket, an equals sign, or a separator
directly inside of square brackets, it leaves them as they are. -/
inductive LeadsTo (s : State) (t : Token) : State → Prop where
  | inside {s' : State} (frames : s'.frames = s.frames) (assignment : s'.assignment = s.assignment)
      (plain : ∀ b, t.lexeme ≠ .opening b ∧ t.lexeme ≠ .closing b)
      (apart : t.lexeme = .comma ∨ t.lexeme = .semicolon →
        ∀ frame ∈ s.frames.head?, frame.bracket ≠ .square) : LeadsTo s t s'
  | opening {b : Bracket} (lexeme : t.lexeme = .opening b) :
      LeadsTo s t (s.openBracket b t.start)
  | closing {b : Bracket} {s' : State} (lexeme : t.lexeme = .closing b)
      (closed : s.close b = .ok s') : LeadsTo s t s'
  | separator {frame : Frame} {outer : List Frame} {endsRow : Bool} {s' : State}
      (lexeme : t.lexeme = .comma ∨ t.lexeme = .semicolon) (frames : s.frames = frame :: outer)
      (square : frame.bracket = .square) (ended : s.endCell frame outer endsRow = .ok s') :
      LeadsTo s t s'
  | assignment (lexeme : t.lexeme = .assign) (step : Step) :
      LeadsTo s t { State.initial with assignment := some step }

theorem leadsTo_of_separate {s' : State} {endsRow : Bool}
    (lexeme : t.lexeme = .comma ∨ t.lexeme = .semicolon)
    (separated : s.separate endsRow = .ok s') : s.LeadsTo t s' := by
  have plain (b : Bracket) : t.lexeme ≠ .opening b ∧ t.lexeme ≠ .closing b := by
    rcases lexeme with lexeme | lexeme <;> simp [lexeme]
  rcases separate_eq_ok separated with ⟨apart, rfl⟩ | ⟨frame, outer, frames, square, ended⟩
  · exact .inside rfl rfl plain fun _ => apart
  · exact .separator lexeme frames square ended

theorem leadsTo_of_take {s' : State} (taken : s.take t = .ok s') : s.LeadsTo t s' := by
  unfold take at taken
  cases lexeme : t.lexeme with
  | text u | unit u =>
    rw [lexeme] at taken
    obtain rfl := Except.ok.inj taken
    refine .inside ?_ ?_ (by simp [lexeme]) (by simp [lexeme]) <;> split <;> rfl
  | operand o =>
    rw [lexeme] at taken
    obtain rfl := Except.ok.inj taken
    exact .inside s.frames_beginOperand s.assignment_beginOperand (by simp [lexeme])
      (by simp [lexeme])
  | conversion u =>
    rw [lexeme] at taken
    obtain rfl := Except.ok.inj taken
    exact .inside rfl rfl (by simp [lexeme]) (by simp [lexeme])
  | opening b =>
    rw [lexeme] at taken
    obtain rfl := Except.ok.inj taken
    exact .opening lexeme
  | closing b =>
    rw [lexeme] at taken
    exact .closing lexeme taken
  | comma =>
    rw [lexeme] at taken
    exact leadsTo_of_separate (.inl lexeme) taken
  | semicolon =>
    rw [lexeme] at taken
    exact leadsTo_of_separate (.inr lexeme) taken
  | assign =>
    rw [lexeme] at taken
    obtain rfl := Except.ok.inj taken
    exact .assignment lexeme _
  | operator op =>
    rw [lexeme] at taken
    obtain rfl := Except.ok.inj taken
    refine .inside ?_ ?_ (by simp [lexeme]) (by simp [lexeme])
    · split
      · rfl
      · cases op <;> rfl
    · split
      · rfl
      · cases op <;> rfl

/-! ### Matrices -/

/-- Inside an open matrix, before a cell: the cells so far are finished, and `s` is suspended. -/
def inMatrix (s : State) (start : Nat) (done : List Step) (layout : Layout) : State :=
  { s with
    level := ⟨done, []⟩
    frames := ⟨.square, start, s.level, layout⟩ :: s.frames
    afterOperand := false
    textGap := false }

/-- Inside an open matrix, after the expression of a cell. -/
def AtCellEnd (s : State) (start : Nat) (done : List Step) (layout : Layout) (s' : State) : Prop :=
  s'.level.flush = ⟨done, []⟩ ∧
    s' = { s.inMatrix start done layout with level := s'.level, afterOperand := true }

namespace AtCellEnd
variable {s' : State} {start : Nat} {done : List Step} {layout : Layout}

theorem take_comma (h : s.AtCellEnd start done layout s') (token : t.lexeme = .comma) :
    s'.take t = .ok (s.inMatrix start done
      { layout with current := layout.current + 1, hasSeparator := true }) := by
  obtain ⟨flush, shape⟩ := h
  rw [shape]
  simp [take, token, separate, endCell, inMatrix, flush, Except.map]

theorem endCell_row (h : s.AtCellEnd start done layout s')
    (cols : ∀ n ∈ layout.cols?, n = layout.current + 1) :
    s'.endCell ⟨.square, start, s.level, layout⟩ s.frames true
      = .ok (s.inMatrix start done ⟨layout.rows + 1, some (layout.current + 1), 0, true⟩) := by
  obtain ⟨flush, shape⟩ := h
  rw [shape]
  cases known : layout.cols? with
  | none => simp [endCell, inMatrix, flush, known, Except.map]
  | some n =>
    obtain rfl := cols n known
    simp [endCell, inMatrix, flush, known, Except.map]

theorem take_semicolon (h : s.AtCellEnd start done layout s')
    (cols : ∀ n ∈ layout.cols?, n = layout.current + 1) (token : t.lexeme = .semicolon) :
    s'.take t
      = .ok (s.inMatrix start done ⟨layout.rows + 1, some (layout.current + 1), 0, true⟩) := by
  have frames : s'.frames = ⟨.square, start, s.level, layout⟩ :: s.frames := by
    rw [h.2]
    rfl
  simp only [take, token, separate, frames, ↓reduceIte, h.endCell_row cols]

theorem take_closing (h : s.AtCellEnd start done layout s')
    (cols : ∀ n ∈ layout.cols?, n = layout.current + 1) (separated : layout.hasSeparator = true)
    (token : t.lexeme = .closing .square) :
    s'.take t = .ok { s with
      level := ⟨s.level.output ++ done
        ++ [⟨.matrix (layout.rows + 1) (layout.current + 1), some start, none⟩], s.level.waiting⟩
      afterOperand := true
      textGap := false } := by
  have frames : s'.frames = ⟨.square, start, s.level, layout⟩ :: s.frames := by
    rw [h.2]
    rfl
  simp [take, token, close, frames, separated, closeMatrix, h.endCell_row cols, inMatrix,
    endOperand, bind, Except.bind, pure, Except.pure]

end AtCellEnd
end State
end CalcSheet.Postfix
