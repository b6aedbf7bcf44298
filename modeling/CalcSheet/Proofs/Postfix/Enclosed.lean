import CalcSheet.Proofs.Postfix.Emitted
import CalcSheet.Proofs.Postfix.Run

/-!
# Brackets by themselves

What stands inside brackets, or in one cell of a matrix, is put into postfix order as if it were a
line of its own: nothing outside makes a difference to it.
-/
namespace CalcSheet.Postfix

/-- The level with further steps finished before its own. -/
def Level.behind (l : Level) (done : List Step) : Level := ⟨done ++ l.output, l.waiting⟩

namespace Level
variable (l : Level) (done : List Step)

theorem behind_flush : (l.behind done).flush = l.flush.behind done := by
  simp [behind, flush]

theorem behind_wait (w : Waiting) : (l.behind done).wait w = (l.wait w).behind done := by
  simp [behind, wait]

end Level

/-- The current level among further brackets. The outermost one goes on with the steps of the level
around. -/
def innermost (done : List Step) (l : Level) : List Frame → Level
  | [] => l.behind done
  | _ => l

/-- Brackets inside of further ones. -/
def nested (done : List Step) (outer : List Frame) : List Frame → List Frame
  | [] => outer
  | f :: fs => { f with outer := innermost done f.outer fs } :: nested done outer fs

namespace State

/-- The state inside the brackets that are open in another state. -/
def within (s base : State) : State :=
  { s with
    level := innermost base.level.output s.level s.frames
    frames := nested base.level.output base.frames s.frames
    assignment := base.assignment }

variable {s s' base m m' : State} {t : Token} {ts inner : List Token} {step : Step} {w : Waiting}
  {frame : Frame} {outer : List Frame}

theorem length_nested (done : List Step) (outer fs : List Frame) :
    (nested done outer fs).length = fs.length + outer.length := by
  induction fs with
  | nil => simp [nested]
  | cons f fs ih => simp [nested, ih, Nat.add_right_comm]

theorem within_emit (s base : State) (step : Step) :
    (s.within base).emit step = (s.emit step).within base := by
  cases frames : s.frames <;> simp [within, emit, innermost, nested, Level.behind, frames]

theorem within_pushOperator (s base : State) (w : Waiting) :
    (s.within base).pushOperator w = (s.pushOperator w).within base := by
  cases frames : s.frames <;>
    simp [within, pushOperator, innermost, nested, Level.behind_wait, frames]

theorem within_beginOperand (s base : State) :
    (s.within base).beginOperand = s.beginOperand.within base := by
  unfold beginOperand
  split
  · next joined => rw [if_pos (show (s.afterOperand && !s.textGap) = true from joined),
      within_pushOperator]
  · next apart => rw [if_neg (show ¬ (s.afterOperand && !s.textGap) = true from apart)]

theorem within_flush (s base : State) :
    ({ s.within base with level := (s.within base).level.flush } : State)
      = ({ s with level := s.level.flush } : State).within base := by
  cases frames : s.frames <;> simp [within, innermost, nested, Level.behind_flush, frames]

/-- A closing bracket takes away the frame that it closes. -/
theorem frames_close {b : Bracket} (closed : s.close b = .ok s') :
    ∃ frame, s.frames = frame :: s'.frames := by
  obtain ⟨frame, outer, frames, -, ⟨-, closed⟩ | ⟨-, rfl⟩⟩ := close_eq_ok closed
  · obtain ⟨-, -, rfl⟩ := closeMatrix_eq_ok closed
    exact ⟨frame, frames⟩
  · rw [closeGroup_eq]
    exact ⟨frame, frames⟩

/-- The end of a cell changes what its brackets have collected. -/
theorem frames_endCell {endsRow : Bool} (ended : s.endCell frame outer endsRow = .ok s') :
    s'.frames ≠ frame :: outer := by
  obtain ⟨-, -, rfl⟩ := endCell_eq_ok_iff.1 ended
  intro same
  have layout : frame.layout.next endsRow = frame.layout :=
    congrArg Frame.layout (List.cons.inj same).1
  cases endsRow with
  | true => simpa [Layout.next] using congrArg Layout.rows layout
  | false => simpa [Layout.next] using congrArg Layout.current layout

theorem within_endCell (frames : s.frames = frame :: outer) (base : State) (endsRow : Bool) :
    (s.within base).endCell
        { frame with outer := innermost base.level.output frame.outer outer }
        (nested base.level.output base.frames outer) endsRow
      = (·.within base) <$> s.endCell frame outer endsRow := by
  unfold endCell
  rw [show (s.within base).afterOperand = s.afterOperand from rfl]
  split
  · rfl
  · dsimp only
    split
    · simp [Except.map, Functor.map, within, innermost, nested, frames]
    · cases frame.layout.cols? with
      | none => simp [Except.map, Functor.map, within, innermost, nested, frames]
      | some cols =>
        dsimp only
        split
        · simp [Except.map, Functor.map, within, innermost, nested, frames]
        · rfl

theorem within_closeGroup (frames : s.frames = frame :: outer) (base : State) :
    (s.within base).closeGroup
        { frame with outer := innermost base.level.output frame.outer outer }
        (nested base.level.output base.frames outer)
      = (s.closeGroup frame outer).within base := by
  have level : (s.within base).level = s.level := by simp [within, innermost, frames]
  rw [closeGroup_eq, closeGroup_eq, level]
  cases outer <;> simp [within, innermost, nested, Level.behind]

theorem within_closeMatrix (frames : s.frames = frame :: outer) (base : State) :
    (s.within base).closeMatrix
        { frame with outer := innermost base.level.output frame.outer outer }
        (nested base.level.output base.frames outer)
      = (·.within base) <$> s.closeMatrix frame outer := by
  rw [closeMatrix, closeMatrix, within_endCell frames]
  cases ended : s.endCell frame outer true with
  | error fault => rfl
  | ok s' =>
    obtain ⟨-, -, rfl⟩ := endCell_eq_ok_iff.1 ended
    cases outer <;> simp [within, innermost, nested, Level.behind, endOperand, bind, Except.bind,
      Functor.map, Except.map, pure, Except.pure]

theorem within_close (frames : s.frames = frame :: outer) (base : State) (b : Bracket) :
    (s.within base).close b = (·.within base) <$> s.close b := by
  have inside : (s.within base).frames
      = { frame with outer := innermost base.level.output frame.outer outer }
        :: nested base.level.output base.frames outer := by
    simp [within, nested, frames]
  unfold close
  rw [inside, frames]
  dsimp only
  split
  · rfl
  · split
    · exact within_closeMatrix frames base
    · exact congrArg Except.ok (within_closeGroup frames base)

theorem within_separate (frames : s.frames = frame :: outer) (base : State) (endsRow : Bool) :
    (s.within base).separate endsRow = (·.within base) <$> s.separate endsRow := by
  have inside : (s.within base).frames
      = { frame with outer := innermost base.level.output frame.outer outer }
        :: nested base.level.output base.frames outer := by
    simp [within, nested, frames]
  unfold separate
  rw [inside, frames]
  dsimp only
  split
  · exact within_endCell frames base endsRow
  · simp [within, innermost, nested, frames, Functor.map, Except.map]

/-- Among the brackets of another state, a token that leaves these open does the same. -/
theorem take_within (some_ : base.frames ≠ []) (kept : base.frames <:+ m.frames)
    (taken : (s.within base).take t = .ok m) :
    ∃ s', s.take t = .ok s' ∧ m = s'.within base ∧ t.lexeme ≠ .assign := by
  have closing {b : Bracket} (taken : (s.within base).close b = .ok m) :
      ∃ s', s.close b = .ok s' ∧ m = s'.within base := by
    cases frames : s.frames with
    | cons frame outer =>
      rw [within_close frames] at taken
      obtain ⟨s', closed, rfl⟩ := map_eq_ok taken
      exact ⟨s', closed, rfl⟩
    | nil =>
      obtain ⟨frame, whole⟩ := frames_close taken
      have all : base.frames = frame :: m.frames := by simpa [within, nested, frames] using whole
      have length := kept.length_le
      rw [all] at length
      exact absurd length (Nat.not_succ_le_self _)
  have separating {endsRow : Bool} (taken : (s.within base).separate endsRow = .ok m) :
      ∃ s', s.separate endsRow = .ok s' ∧ m = s'.within base := by
    cases frames : s.frames with
    | cons frame outer =>
      rw [within_separate frames] at taken
      obtain ⟨s', separated, rfl⟩ := map_eq_ok taken
      exact ⟨s', separated, rfl⟩
    | nil =>
      have inside : (s.within base).frames = base.frames := by simp [within, nested, frames]
      unfold separate at taken ⊢
      rw [inside] at taken
      rw [frames]
      cases whole : base.frames with
      | nil => exact absurd whole some_
      | cons frame outer =>
        rw [whole] at taken kept
        dsimp only at taken
        split at taken
        · obtain ⟨layout, -, frames', -⟩ := endCell_eq_ok taken
          have same := kept.eq_of_length (by rw [frames']; rfl)
          exact absurd same.symm (frames_endCell taken)
        · obtain rfl := Except.ok.inj taken
          exact ⟨_, rfl, by simp [within, innermost, nested, frames, whole]⟩
  unfold take at taken ⊢
  cases lexeme : t.lexeme with
  | text u =>
    rw [lexeme] at taken
    obtain rfl := Except.ok.inj taken
    refine ⟨_, rfl, ?_, Lexeme.noConfusion⟩
    split <;> rfl
  | operand o =>
    rw [lexeme] at taken
    obtain rfl := Except.ok.inj taken
    exact ⟨_, rfl, by rw [within_beginOperand, within_emit]; rfl, Lexeme.noConfusion⟩
  | unit u =>
    rw [lexeme] at taken
    obtain rfl := Except.ok.inj taken
    refine ⟨_, rfl, ?_, Lexeme.noConfusion⟩
    rw [show (s.within base).afterOperand = s.afterOperand from rfl,
      show (s.within base).textGap = s.textGap from rfl, within_emit]
    split <;> rfl
  | conversion u =>
    rw [lexeme] at taken
    obtain rfl := Except.ok.inj taken
    exact ⟨_, rfl, by rw [within_flush, within_emit]; rfl, Lexeme.noConfusion⟩
  | opening b =>
    rw [lexeme] at taken
    obtain rfl := Except.ok.inj taken
    exact ⟨_, rfl, by rw [openBracket, within_beginOperand]; rfl, Lexeme.noConfusion⟩
  | closing b =>
    rw [lexeme] at taken
    obtain ⟨s', closed, same⟩ := closing taken
    exact ⟨s', closed, same, Lexeme.noConfusion⟩
  | comma =>
    rw [lexeme] at taken
    obtain ⟨s', separated, same⟩ := separating taken
    exact ⟨s', separated, same, Lexeme.noConfusion⟩
  | semicolon =>
    rw [lexeme] at taken
    obtain ⟨s', separated, same⟩ := separating taken
    exact ⟨s', separated, same, Lexeme.noConfusion⟩
  | assign =>
    rw [lexeme] at taken
    obtain rfl := Except.ok.inj taken
    exact absurd (List.suffix_nil.1 kept) some_
  | operator op =>
    rw [lexeme] at taken
    obtain rfl := Except.ok.inj taken
    refine ⟨_, rfl, ?_, Lexeme.noConfusion⟩
    rw [show (s.within base).afterOperand = s.afterOperand from rfl, within_pushOperator]
    split
    · rfl
    · split
      · cases frames : s.frames <;> simp [within, innermost, nested, Level.behind, frames]
      · rfl
      · rfl

/-- Some brackets stay open while tokens are taken. -/
def Keeps (outer : List Frame) : State → List Token → Prop
  | s, [] => outer <:+ s.frames
  | s, t :: ts => outer <:+ s.frames ∧ ∀ next, s.take t = .ok next → Keeps outer next ts

theorem Keeps.suffix (kept : Keeps outer s ts) : outer <:+ s.frames := by
  cases ts with
  | nil => exact kept
  | cons => exact kept.1

/-- Among the brackets of another state, tokens that leave these open do the same. -/
theorem takeAll_within (some_ : base.frames ≠ []) (kept : Keeps base.frames (s.within base) ts)
    (taken : takeAll (s.within base) ts = .ok m) :
    ∃ s', takeAll s ts = .ok s' ∧ m = s'.within base ∧ ∀ t ∈ ts, t.lexeme ≠ .assign := by
  induction ts generalizing s with
  | nil =>
    obtain rfl := Except.ok.inj taken
    exact ⟨s, rfl, rfl, List.forall_mem_nil _⟩
  | cons t ts ih =>
    rw [takeAll_cons] at taken
    obtain ⟨middle, first, rest⟩ := bind_eq_ok taken
    obtain ⟨next, taken, rfl, other⟩ := take_within some_ (kept.2 middle first).suffix first
    obtain ⟨s', takenRest, same, others⟩ := ih (kept.2 _ first) rest
    exact ⟨s', by rw [takeAll_cons_of_eq taken, takenRest], same,
      List.forall_mem_cons.2 ⟨other, others⟩⟩

/-! ### Cells -/

/-- Whether a token separates cells of a matrix. -/
def separates (s : State) (t : Token) : Bool :=
  (t.lexeme == .comma || t.lexeme == .semicolon) && s.frames.head?.any (·.bracket == .square)

theorem endCell_of_separates (separates : s.separates t = true) (taken : s.take t = .ok s') :
    ∃ frame outer endsRow, s.frames = frame :: outer
      ∧ s.endCell frame outer endsRow = .ok s' := by
  obtain ⟨sign, square⟩ := Bool.and_eq_true_iff.1 separates
  cases frames : s.frames with
  | nil => simp [frames] at square
  | cons frame outer =>
    have square : frame.bracket = .square := by simpa [frames] using square
    rcases Bool.or_eq_true_iff.1 sign with sign | sign
    · have sign : t.lexeme = .comma := by simpa using sign
      rw [take, sign] at taken
      simp only [separate, frames, square, ↓reduceIte] at taken
      exact ⟨frame, outer, false, rfl, taken⟩
    · have sign : t.lexeme = .semicolon := by simpa using sign
      rw [take, sign] at taken
      simp only [separate, frames, square, ↓reduceIte] at taken
      exact ⟨frame, outer, true, rfl, taken⟩

/-- A cell ends behind an operand, and the next one begins anew. -/
theorem afterOperand_endCell {endsRow : Bool} (ended : s.endCell frame outer endsRow = .ok s') :
    s.afterOperand = true ∧ s'.afterOperand = false ∧ s'.textGap = false := by
  obtain ⟨after, -, rfl⟩ := endCell_eq_ok_iff.1 ended
  exact ⟨after, rfl, rfl⟩

/-- Just inside of brackets, nothing has been read in them or in their current cell. -/
def IsFresh (s : State) : Prop := s.frames ≠ [] ∧ s = State.initial.within s

theorem isFresh_iff : s.IsFresh ↔ s.frames ≠ [] ∧ s.level.waiting = [] ∧ s.afterOperand = false
    ∧ s.textGap = false := by
  obtain ⟨⟨output, waiting⟩, frames, afterOperand, textGap, assignment⟩ := s
  simp [IsFresh, within, innermost, nested, initial, Level.behind, Level.empty]

theorem isFresh_openBracket (b : Bracket) (start : Nat) : (s.openBracket b start).IsFresh :=
  isFresh_iff.2 ⟨nofun, rfl, rfl, rfl⟩

theorem isFresh_of_separates (separates : s.separates t = true) (taken : s.take t = .ok s') :
    s'.IsFresh := by
  obtain ⟨frame, outer, endsRow, -, ended⟩ := endCell_of_separates separates taken
  obtain ⟨layout, level, frames, -⟩ := endCell_eq_ok ended
  obtain ⟨-, flags⟩ := afterOperand_endCell ended
  exact isFresh_iff.2 ⟨by rw [frames]; exact nofun, by rw [level]; rfl, flags⟩

end State

/-- Some tokens of a line stand between an opening bracket or a separator and the next separator or
the closing bracket of the same brackets. The states are those in front of them and behind them. -/
structure Encloses (tokens inner : List Token) (s s' : State) : Prop where
  placed : ∃ before opener closer after m m',
    tokens = before ++ opener :: (inner ++ closer :: after)
      ∧ takeAll .initial before = .ok m ∧ m.take opener = .ok s
      ∧ (m.separates opener = true ∨ ∃ b, opener.lexeme = .opening b)
      ∧ s'.take closer = .ok m'
      ∧ (s'.separates closer = true ∨ ∃ b, closer.lexeme = .closing b)
  inside : takeAll s inner = .ok s'
  kept : State.Keeps s.frames s inner
  same : s'.frames = s.frames

/-- Outside of all brackets the steps are those of the level, with the assignment last. -/
theorem ofTokens_of_takeAll {tokens : List Token} {s : State}
    (taken : takeAll .initial tokens = .ok s) (frames : s.frames = []) :
    ofTokens tokens = s.level.flush.output ++ s.assignment.toList := by
  rw [ofTokens, run_eq_of_takeAll taken, run, State.outermost, frames]
  rfl

namespace Encloses
variable {tokens inner : List Token} {s s' : State}

theorem isFresh (h : Encloses tokens inner s s') : s.IsFresh := by
  obtain ⟨_, opener, _, _, m, _, -, -, opened, begins, -⟩ := h.placed
  rcases begins with separates | ⟨b, lexeme⟩
  · exact State.isFresh_of_separates separates opened
  · rw [State.take, lexeme] at opened
    obtain rfl := Except.ok.inj opened
    exact State.isFresh_openBracket b opener.start

/-- By themselves, the tokens end outside of all brackets. -/
theorem takeAll_initial (h : Encloses tokens inner s s') :
    ∃ alone, takeAll .initial inner = .ok alone ∧ alone.frames = [] ∧ alone.assignment = none
      ∧ s' = alone.within s := by
  obtain ⟨some_, fresh⟩ := h.isFresh
  have kept := h.kept
  have inside := h.inside
  rw [fresh] at inside
  obtain ⟨alone, taken, rfl, others⟩ := State.takeAll_within some_ (by rwa [← fresh]) inside
  have frames : alone.frames = [] := by
    have length := congrArg List.length h.same
    rw [State.within, State.length_nested] at length
    exact List.length_eq_zero_iff.1 (by omega)
  have assignment := assignment_run (s := .initial) others
  rw [run_eq_of_takeAll taken, run] at assignment
  exact ⟨alone, taken, frames, assignment, rfl⟩

/-- What is emitted for the tokens, between what the same brackets have emitted before and what
comes later, are the steps of the tokens as a line of their own. -/
theorem flush_eq (h : Encloses tokens inner s s') :
    s'.level.flush.output = s.level.output ++ ofTokens inner := by
  obtain ⟨alone, taken, frames, assignment, rfl⟩ := h.takeAll_initial
  rw [ofTokens_of_takeAll taken frames, assignment]
  simp [State.within, innermost, frames, Level.behind, Level.flush]

end Encloses
end CalcSheet.Postfix
