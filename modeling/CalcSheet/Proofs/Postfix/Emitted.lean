import CalcSheet.Proofs.Postfix.Run
import CalcSheet.Proofs.Success

/-!
# Steps that tokens can yield

Whatever the tokens of a line are, its steps are operators, matrices that have rows and columns, and
the operands, units and conversions of its tokens. An assignment is the last step, if there is one.
-/
namespace CalcSheet.Postfix

/-- The action that a token stands for by itself. -/
def ownAction? : Lexeme → Option Action
  | .operand o => some (.push o)
  | .unit u => some (.attach u)
  | .conversion u => some (.convert u)
  | _ => none

/-- A property that every action of a line has, once those of its tokens have it. -/
structure IsInherited (p : Action → Prop) : Prop where
  operate : ∀ op, p (.operate op)
  negate : p .negate
  matrix : ∀ rows cols, 0 < rows → 0 < cols → p (.matrix rows cols)

variable {p : Action → Prop}

theorem IsInherited.toStep (h : IsInherited p) (w : Waiting) : p w.toStep.action := by
  rcases w with ⟨op | _, _, _⟩
  · exact h.operate op
  · exact h.negate

/-- All finished steps of a level have the property. -/
def Level.Holds (p : Action → Prop) (l : Level) : Prop := ∀ step ∈ l.output, p step.action

namespace Level

variable {l : Level} {steps : List Step}

theorem holds_empty : Level.empty.Holds p := List.forall_mem_nil _

theorem Holds.append (h : l.Holds p) (more : ∀ step ∈ steps, p step.action)
    (waiting : List Waiting) : Level.Holds p ⟨l.output ++ steps, waiting⟩ := by
  intro step mem
  rcases List.mem_append.1 mem with mem | mem
  · exact h step mem
  · exact more step mem

theorem Holds.finish (h : l.Holds p) (inherited : IsInherited p) (finished waiting : List Waiting) :
    Level.Holds p ⟨l.output ++ finished.map Waiting.toStep, waiting⟩ := by
  refine h.append (fun step mem => ?_) waiting
  obtain ⟨w, -, rfl⟩ := List.mem_map.1 mem
  exact inherited.toStep w

theorem Holds.flush (h : l.Holds p) (inherited : IsInherited p) : l.flush.Holds p :=
  h.finish inherited l.waiting []

theorem Holds.wait (h : l.Holds p) (inherited : IsInherited p) (w : Waiting) :
    (l.wait w).Holds p := h.finish inherited _ _

end Level

/-- The layout after another cell, and after its row too where `endsRow` says so. -/
def Layout.next (l : Layout) (endsRow : Bool) : Layout :=
  if endsRow then ⟨l.rows + 1, some (l.current + 1), 0, true⟩
  else { l with current := l.current + 1, hasSeparator := true }

/-- All finished steps of a state have the property; only an assignment stands apart. -/
structure State.Holds (p : Action → Prop) (s : State) : Prop where
  level : s.level.Holds p
  frames : ∀ frame ∈ s.frames, frame.outer.Holds p
  assignment : ∀ step ∈ s.assignment, step.action = .assign

namespace State

variable {s s' : State} {t : Token} {frame : Frame} {outer : List Frame} {endsRow : Bool}

theorem holds_initial : State.initial.Holds p :=
  ⟨Level.holds_empty, List.forall_mem_nil _, by simp [State.initial]⟩

theorem Holds.emit (h : s.Holds p) {step : Step} (here : p step.action) : (s.emit step).Holds p :=
  ⟨h.level.append (by simpa using here) _, h.frames, h.assignment⟩

theorem Holds.pushOperator (h : s.Holds p) (inherited : IsInherited p) (w : Waiting) :
    (s.pushOperator w).Holds p := ⟨h.level.wait inherited w, h.frames, h.assignment⟩

theorem Holds.beginOperand (h : s.Holds p) (inherited : IsInherited p) :
    s.beginOperand.Holds p := by
  unfold State.beginOperand
  split
  · exact h.pushOperator inherited _
  · exact h

theorem Holds.openBracket (h : s.Holds p) (inherited : IsInherited p) (b : Bracket)
    (start : Nat) : (s.openBracket b start).Holds p := by
  have begun := h.beginOperand inherited
  exact ⟨Level.holds_empty, List.forall_mem_cons.2 ⟨begun.level, begun.frames⟩, begun.assignment⟩

/-- A cell ends behind an operand, and a row with as many cells as those before it. -/
theorem endCell_eq_ok_iff : s.endCell frame outer endsRow = .ok s' ↔
    s.afterOperand = true
      ∧ (endsRow = true → ∀ cols ∈ frame.layout.cols?, cols = frame.layout.current + 1)
      ∧ s' = ⟨s.level.flush, { frame with layout := frame.layout.next endsRow } :: outer, false,
        false, s.assignment⟩ := by
  unfold endCell Layout.next
  cases s.afterOperand with
  | false => simp
  | true =>
    cases endsRow with
    | false => simp [Except.map, eq_comm]
    | true =>
      cases known : frame.layout.cols? with
      | none => simp [Except.map, eq_comm]
      | some cols =>
        by_cases width : frame.layout.current + 1 = cols
        · simp [Except.map, width, eq_comm]
        · simp [Except.map, width, Ne.symm width]

/-- What the end of a cell leaves: the cell is finished, and the frame has another layout. -/
theorem endCell_eq_ok (h : s.endCell frame outer endsRow = .ok s') :
    ∃ layout, s'.level = s.level.flush ∧ s'.frames = { frame with layout } :: outer
      ∧ s'.assignment = s.assignment := by
  obtain ⟨-, -, rfl⟩ := endCell_eq_ok_iff.1 h
  exact ⟨_, rfl, rfl, rfl⟩

/-- The steps of a group come to those around it. Where it has none, it counts as text. -/
theorem closeGroup_eq (s : State) (frame : Frame) (outer : List Frame) :
    s.closeGroup frame outer
      = ⟨⟨frame.outer.output ++ s.level.flush.output, frame.outer.waiting⟩, outer,
        !s.level.flush.output.isEmpty, s.level.flush.output.isEmpty, s.assignment⟩ := by
  unfold closeGroup
  cases none_ : s.level.flush.output.isEmpty <;> simp [none_, endOperand]

/-- A matrix takes the place of its brackets. -/
theorem closeMatrix_eq_ok (h : s.closeMatrix frame outer = .ok s') :
    s.afterOperand = true
      ∧ (∀ cols ∈ frame.layout.cols?, cols = frame.layout.current + 1)
      ∧ s' = ⟨⟨frame.outer.output ++ s.level.flush.output
          ++ [⟨.matrix (frame.layout.rows + 1) (frame.layout.current + 1), some frame.start, none⟩],
          frame.outer.waiting⟩, outer, true, false, s.assignment⟩ := by
  obtain ⟨ended, end_, closed⟩ := bind_eq_ok h
  obtain ⟨after, fits, rfl⟩ := endCell_eq_ok_iff.1 end_
  obtain rfl := Except.ok.inj closed
  exact ⟨after, fits rfl, rfl⟩

theorem Holds.endCell (h : s.Holds p) (inherited : IsInherited p)
    (frames : s.frames = frame :: outer) (ended : s.endCell frame outer endsRow = .ok s') :
    s'.Holds p := by
  obtain ⟨layout, level, frames', assignment⟩ := endCell_eq_ok ended
  obtain ⟨here, others⟩ := List.forall_mem_cons.1 (frames ▸ h.frames)
  refine ⟨level ▸ h.level.flush inherited, ?_, assignment ▸ h.assignment⟩
  rw [frames']
  exact List.forall_mem_cons.2 ⟨here, others⟩

theorem Holds.closeGroup (h : s.Holds p) (inherited : IsInherited p)
    (frames : s.frames = frame :: outer) : (s.closeGroup frame outer).Holds p := by
  obtain ⟨here, others⟩ := List.forall_mem_cons.1 (frames ▸ h.frames)
  rw [closeGroup_eq]
  exact ⟨here.append (h.level.flush inherited) _, others, h.assignment⟩

theorem Holds.closeMatrix (h : s.Holds p) (inherited : IsInherited p)
    (frames : s.frames = frame :: outer) (closed : s.closeMatrix frame outer = .ok s') :
    s'.Holds p := by
  obtain ⟨-, -, rfl⟩ := closeMatrix_eq_ok closed
  obtain ⟨here, others⟩ := List.forall_mem_cons.1 (frames ▸ h.frames)
  have cells : Level.Holds p ⟨frame.outer.output ++ s.level.flush.output, frame.outer.waiting⟩ :=
    here.append (h.level.flush inherited) _
  refine ⟨cells.append (List.forall_mem_singleton.2 ?_) _, others, h.assignment⟩
  exact inherited.matrix _ _ (Nat.succ_pos _) (Nat.succ_pos _)

theorem Holds.close (h : s.Holds p) (inherited : IsInherited p) {b : Bracket}
    (closed : s.close b = .ok s') : s'.Holds p := by
  obtain ⟨frame, outer, frames, -, ⟨-, closed⟩ | ⟨-, rfl⟩⟩ := close_eq_ok closed
  · exact h.closeMatrix inherited frames closed
  · exact h.closeGroup inherited frames

theorem Holds.separate (h : s.Holds p) (inherited : IsInherited p)
    (separated : s.separate endsRow = .ok s') : s'.Holds p := by
  rcases separate_eq_ok separated with ⟨-, rfl⟩ | ⟨frame, outer, frames, -, ended⟩
  · exact ⟨h.level, h.frames, h.assignment⟩
  · exact h.endCell inherited frames ended

/-- A token keeps the property if its own action has it. -/
theorem Holds.take (h : s.Holds p) (inherited : IsInherited p)
    (own : ∀ a ∈ ownAction? t.lexeme, p a) (taken : s.take t = .ok s') : s'.Holds p := by
  unfold State.take at taken
  cases lexeme : t.lexeme with
  | text u =>
    rw [lexeme] at taken
    obtain rfl := Except.ok.inj taken
    split
    · exact h
    · exact ⟨h.level, h.frames, h.assignment⟩
  | operand o =>
    rw [lexeme] at taken own
    obtain rfl := Except.ok.inj taken
    have emitted : (s.beginOperand.emit ⟨.push o, some t.start, some t.stop⟩).Holds p :=
      (h.beginOperand inherited).emit (own _ rfl)
    exact ⟨emitted.level, emitted.frames, emitted.assignment⟩
  | unit u =>
    rw [lexeme] at taken own
    obtain rfl := Except.ok.inj taken
    split
    · exact h.emit (own _ rfl)
    · exact ⟨h.level, h.frames, h.assignment⟩
  | conversion u =>
    rw [lexeme] at taken own
    obtain rfl := Except.ok.inj taken
    exact ⟨(h.level.flush inherited).append (by simpa using own _ rfl) _, h.frames, h.assignment⟩
  | opening b =>
    rw [lexeme] at taken
    obtain rfl := Except.ok.inj taken
    exact h.openBracket inherited b t.start
  | closing b =>
    rw [lexeme] at taken
    exact h.close inherited taken
  | comma =>
    rw [lexeme] at taken
    exact h.separate inherited taken
  | semicolon =>
    rw [lexeme] at taken
    exact h.separate inherited taken
  | assign =>
    rw [lexeme] at taken
    obtain rfl := Except.ok.inj taken
    exact ⟨Level.holds_empty, List.forall_mem_nil _, by simp⟩
  | operator op =>
    rw [lexeme] at taken
    obtain rfl := Except.ok.inj taken
    split
    · exact h.pushOperator inherited _
    · split
      · exact ⟨h.level, h.frames, h.assignment⟩
      · exact h
      · exact h.pushOperator inherited _

theorem assignment_close {b : Bracket} (closed : s.close b = .ok s') :
    s'.assignment = s.assignment := by
  obtain ⟨frame, outer, -, -, ⟨-, closed⟩ | ⟨-, rfl⟩⟩ := close_eq_ok closed
  · obtain ⟨-, -, rfl⟩ := closeMatrix_eq_ok closed
    rfl
  · rw [closeGroup_eq]

/-- No token but an equals sign changes whether a line assigns. -/
theorem assignment_take (other : t.lexeme ≠ .assign) (taken : s.take t = .ok s') :
    s'.assignment = s.assignment := by
  cases leadsTo_of_take taken with
  | inside _ assignment => exact assignment
  | opening => exact s.assignment_beginOperand
  | closing _ closed => exact assignment_close closed
  | separator _ _ _ ended =>
    obtain ⟨layout, -, -, assignment⟩ := endCell_eq_ok ended
    exact assignment
  | assignment assigns => exact absurd assigns other

theorem isSome_assignment_take (assigns : s.assignment.isSome) (taken : s.take t = .ok s') :
    s'.assignment.isSome := by
  by_cases lexeme : t.lexeme = .assign
  · rw [State.take, lexeme] at taken
    obtain rfl := Except.ok.inj taken
    rfl
  · rw [assignment_take lexeme taken]
    exact assigns

theorem Holds.outermost (h : s.Holds p) : s.outermost.Holds p := by
  unfold State.outermost
  split
  · next frame last => exact h.frames frame (List.mem_of_getLast? last)
  · exact h.level

end State

theorem holds_run (inherited : IsInherited p) {s : State} (h : s.Holds p) {tokens : List Token}
    (own : ∀ t ∈ tokens, ∀ a ∈ ownAction? t.lexeme, p a) : (run s tokens).1.Holds p := by
  induction tokens generalizing s with
  | nil => exact h
  | cons t rest ih =>
    obtain ⟨here, later⟩ := List.forall_mem_cons.1 own
    rw [run]
    cases taken : s.take t with
    | error fault => exact h
    | ok next => exact ih (h.take inherited here taken) later

theorem isSome_assignment_run {s : State} (assigns : s.assignment.isSome) (tokens : List Token) :
    (run s tokens).1.assignment.isSome := by
  induction tokens generalizing s with
  | nil => exact assigns
  | cons t rest ih =>
    rw [run]
    cases taken : s.take t with
    | error fault => exact assigns
    | ok next => exact ih (State.isSome_assignment_take assigns taken)

/-- A line without an equals sign does not become an assignment. -/
theorem assignment_run {s : State} {tokens : List Token}
    (others : ∀ t ∈ tokens, t.lexeme ≠ .assign) :
    (run s tokens).1.assignment = s.assignment := by
  induction tokens generalizing s with
  | nil => rfl
  | cons t rest ih =>
    obtain ⟨here, later⟩ := List.forall_mem_cons.1 others
    rw [run]
    cases taken : s.take t with
    | error fault => rfl
    | ok next => exact (ih later).trans (State.assignment_take here taken)

/-- The steps of a line, but for an assignment in last place, have every property that the actions
of its tokens have and that operators and matrices cannot break. -/
theorem ofTokens_holds (inherited : IsInherited p) {tokens : List Token}
    (own : ∀ t ∈ tokens, ∀ a ∈ ownAction? t.lexeme, p a) :
    ∃ steps, ∃ last : Option Step, ofTokens tokens = steps ++ last.toList
      ∧ (∀ step ∈ steps, p step.action) ∧ ∀ step ∈ last, step.action = .assign := by
  have final := holds_run inherited State.holds_initial own
  exact ⟨_, _, rfl, final.outermost.flush inherited, final.assignment⟩

/-- Only in last place there is an assignment. -/
theorem isInherited_ne_assign : IsInherited (· ≠ .assign) := ⟨nofun, nofun, nofun⟩

theorem holds_ne_assign_run (tokens : List Token) : (run .initial tokens).1.Holds (· ≠ .assign) :=
  holds_run isInherited_ne_assign State.holds_initial fun t _ a own => by
    cases lexeme : t.lexeme <;> rw [lexeme] at own <;> cases own <;> exact nofun

end CalcSheet.Postfix
