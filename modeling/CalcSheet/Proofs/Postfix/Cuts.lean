import CalcSheet.Proofs.Postfix.Enclosed
import CalcSheet.Proofs.Postfix.Remarks

/-!
# Lines with a bracket at fault

A line whose brackets do not fit is cut in one of two places: before a closing bracket that finds
none open, or before the opening bracket that is the outermost one when the fault comes. Nothing
behind that place counts. At most the multiplication that the opening bracket has let wait is left.
-/
namespace CalcSheet.Postfix
variable {s s' : State} {t : Token} {ts : List Token} {frame : Frame} {outer : List Frame}

namespace State

/-! ### Below the outermost bracket -/

/-- The level around the outermost open bracket, if there is one. -/
def base? (s : State) : Option Level := s.frames.getLast?.map Frame.outer

theorem outermost_of_base? {l : Level} (h : s.base? = some l) : s.outermost = l := by
  obtain ⟨frame, last, rfl⟩ := Option.map_eq_some_iff.1 h
  simp [outermost, last]

theorem base?_of_frames (same : s'.frames = s.frames) : s'.base? = s.base? := by
  rw [base?, same, base?]

/-- Another bracket inside of the outermost one leaves it where it is. -/
theorem base?_of_frames_cons (inside : s'.frames = frame :: s.frames) (some_ : s.frames ≠ []) :
    s'.base? = s.base? := by
  cases frames : s.frames with
  | nil => exact absurd frames some_
  | cons f fs => simp [base?, inside, frames]

theorem base?_of_layout {layout : Layout} (before : s.frames = frame :: outer)
    (after : s'.frames = { frame with layout } :: outer) : s'.base? = s.base? := by
  cases outer <;> simp [base?, before, after]

theorem base?_endCell {endsRow : Bool} (frames : s.frames = frame :: outer)
    (ended : s.endCell frame outer endsRow = .ok s') : s'.base? = s.base? := by
  obtain ⟨layout, -, frames', -⟩ := endCell_eq_ok ended
  exact base?_of_layout frames frames'

/-- As long as brackets stay open, no token changes what is below the outermost one. -/
theorem base?_take (some_ : s.frames ≠ []) (still : s'.frames ≠ []) (taken : s.take t = .ok s') :
    s'.base? = s.base? := by
  cases leadsTo_of_take taken with
  | inside frames => exact base?_of_frames frames
  | opening => exact base?_of_frames_cons (congrArg _ s.frames_beginOperand) some_
  | closing _ closed =>
    obtain ⟨frame, frames⟩ := frames_close closed
    exact (base?_of_frames_cons frames still).symm
  | separator _ frames _ ended => exact base?_endCell frames ended
  | assignment => exact absurd rfl still

/-! ### Faults inside of brackets -/

/-- Some brackets stay open until one is at fault, or until the line ends. -/
def FailsInside : State → List Token → Prop
  | s, [] => s.frames ≠ []
  | s, t :: ts => s.frames ≠ [] ∧ ∀ next, s.take t = .ok next → FailsInside next ts

theorem FailsInside.frames_ne_nil (h : s.FailsInside ts) : s.frames ≠ [] := by
  cases ts with
  | nil => exact h
  | cons => exact h.1

/-- A fault inside of brackets leaves what stood before the outermost one. -/
theorem FailsInside.run (h : s.FailsInside ts) :
    (run s ts).1.base? = s.base? ∧ (run s ts).1.assignment = s.assignment := by
  induction ts generalizing s with
  | nil => exact ⟨rfl, rfl⟩
  | cons t ts ih =>
    rw [Postfix.run]
    cases taken : s.take t with
    | error fault => exact ⟨rfl, rfl⟩
    | ok next =>
      have rest := h.2 next taken
      have other : t.lexeme ≠ .assign := by
        intro assigns
        rw [take, assigns] at taken
        obtain rfl := Except.ok.inj taken
        exact rest.frames_ne_nil rfl
      obtain ⟨base, assignment⟩ := ih rest
      exact ⟨base.trans (base?_take h.1 rest.frames_ne_nil taken),
        assignment.trans (assignment_take other taken)⟩

/-- Where a fault comes inside of an outermost bracket, only the tokens before it count, and the
multiplication that it has let wait. -/
theorem FailsInside.stepsThrough_openBracket {b : Bracket} {start : Nat} (outside : s.frames = [])
    (h : (s.openBracket b start).FailsInside ts) :
    (s.openBracket b start).stepsThrough ts = s.beginOperand.stepsThrough [] := by
  have begun : s.beginOperand.frames = [] := s.frames_beginOperand.trans outside
  have base : (s.openBracket b start).base? = some s.beginOperand.level := by
    simp [base?, openBracket, begun]
  have opened : (s.openBracket b start).assignment = s.beginOperand.assignment := rfl
  obtain ⟨level, assignment⟩ := h.run
  have around : s.beginOperand.outermost = s.beginOperand.level := by simp [outermost, begun]
  rw [stepsThrough, stepsThrough, outermost_of_base? (level.trans base), assignment, opened,
    Postfix.run, around]

/-- Outside of all brackets, a sign for times waits among steps that do not depend on where the
sign stands. -/
theorem stepsThrough_times (outside : s.frames = []) :
    ∃ front back, ∀ start? stop?,
      (s.pushOperator ⟨.operator .mul, start?, stop?⟩).stepsThrough []
        = front ++ ⟨.operate .mul, start?, stop?⟩ :: back := by
  let staysOpen (v : Waiting) : Bool :=
    decide (v.operator.rank < 2) || (v.operator.rank == 2 && false)
  let finished := s.level.waiting.takeWhile (!staysOpen ·)
  refine ⟨s.level.output ++ finished.map Waiting.toStep,
    (s.level.waiting.drop finished.length).map Waiting.toStep ++ s.assignment.toList,
    fun start? stop? => ?_⟩
  have around : (s.pushOperator ⟨.operator .mul, start?, stop?⟩).outermost
      = ⟨s.level.output ++ finished.map Waiting.toStep,
        ⟨.operator .mul, start?, stop?⟩ :: s.level.waiting.drop finished.length⟩ := by
    simp only [outermost, pushOperator, outside]
    rfl
  rw [stepsThrough, Postfix.run, around]
  simp [Level.flush, Waiting.toStep, pushOperator]

end State

/-! ### Lines at fault -/

theorem ofTokens_eq_stepsThrough_nil {before : List Token}
    (taken : takeAll .initial before = .ok s) : ofTokens before = s.stepsThrough [] := by
  rw [← ofTokens_append_of_takeAll taken, List.append_nil]

/-- A closing bracket is at fault where none is open. -/
theorem State.take_closing_outside {b : Bracket} (outside : s.frames = [])
    (closes : t.lexeme = .closing b) : s.take t = .error .unexpectedClosing := by
  simp [take, closes, close, outside]

/-- Outside of all brackets only a closing bracket can be at fault. -/
theorem State.closing_of_take_error {fault : BracketFault} (outside : s.frames = [])
    (failed : s.take t = .error fault) : ∃ b, t.lexeme = .closing b := by
  unfold take at failed
  cases lexeme : t.lexeme with
  | closing b => exact ⟨b, rfl⟩
  | comma | semicolon => simp [lexeme, separate, outside] at failed
  | _ => simp [lexeme] at failed

/-- Outside of all brackets only an opening bracket leads into some. -/
theorem State.opening_of_take (outside : s.frames = []) (taken : s.take t = .ok s')
    (inside : s'.frames ≠ []) :
    ∃ b, t.lexeme = .opening b ∧ s' = s.openBracket b t.start := by
  cases leadsTo_of_take taken with
  | inside frames => exact absurd (frames.trans outside) inside
  | opening lexeme => exact ⟨_, lexeme, rfl⟩
  | closing _ closed => simp [close, outside] at closed
  | separator _ frames => simp [outside] at frames
  | assignment => exact absurd rfl inside

/-- The token, read outside of all brackets behind the tokens before it, where a line is cut. -/
def IsCut (s : State) (before : List Token) (t : Token) (after : List Token) : Prop :=
  ∃ m, takeAll s before = .ok m ∧ m.frames = [] ∧ ((∃ b, t.lexeme = .closing b)
    ∨ ∃ b, t.lexeme = .opening b ∧ (m.openBracket b t.start).FailsInside after)

theorem IsCut.cons {before after : List Token} {u : Token} (h : IsCut s' before u after)
    (taken : s.take t = .ok s') : IsCut s (t :: before) u after := by
  obtain ⟨m, rest, cut⟩ := h
  exact ⟨m, by rw [takeAll_cons_of_eq taken, rest], cut⟩

/-- A fault comes inside of brackets that are already open, or the line is cut later on. -/
theorem failsInside_or_exists_isCut {fault : BracketFault} (failed : (run s ts).2 = some fault) :
    s.FailsInside ts ∨ ∃ before t after, ts = before ++ t :: after ∧ IsCut s before t after := by
  induction ts generalizing s with
  | nil =>
    refine .inl fun outside => ?_
    simp [run, outside] at failed
  | cons t ts ih =>
    rw [run] at failed
    by_cases outside : s.frames = []
    · refine .inr ?_
      cases taken : s.take t with
      | error fault =>
        exact ⟨[], t, ts, rfl, s, rfl, outside, .inl (State.closing_of_take_error outside taken)⟩
      | ok next =>
        rw [taken] at failed
        rcases ih failed with inside | ⟨before, u, after, rfl, cut⟩
        · obtain ⟨b, opens, rfl⟩ := State.opening_of_take outside taken inside.frames_ne_nil
          exact ⟨[], t, ts, rfl, s, rfl, outside, .inr ⟨b, opens, inside⟩⟩
        · exact ⟨t :: before, u, after, rfl, cut.cons taken⟩
    · cases taken : s.take t with
      | error fault => exact .inl ⟨outside, fun next ok => by rw [taken] at ok; cases ok⟩
      | ok next =>
        rw [taken] at failed
        rcases ih failed with inside | ⟨before, u, after, rfl, cut⟩
        · refine .inl ⟨outside, fun next' ok => ?_⟩
          obtain rfl := Except.ok.inj (taken.symm.trans ok)
          exact inside
        · exact .inr ⟨t :: before, u, after, rfl, cut.cons taken⟩

/-- A line at fault is cut at one token. If this is a closing bracket that finds none open, the
tokens before it count, and otherwise it is the outermost bracket that is open at the fault. Then
the tokens before it count, with a sign for times behind them if the bracket stands right behind an
operand. So all lines that fail inside of this bracket have the same steps. -/
theorem ofTokens_cut :
    (∀ before (closing : Token) after s b, takeAll .initial before = .ok s → s.frames = [] →
      closing.lexeme = .closing b → ofTokens (before ++ closing :: after) = ofTokens before)
    ∧ (∀ before (opening : Token) s b, takeAll .initial before = .ok s → s.frames = [] →
      opening.lexeme = .opening b →
      ((s.afterOperand && !s.textGap) = false → ∀ inside,
        (s.openBracket b opening.start).FailsInside inside →
        ofTokens (before ++ opening :: inside) = ofTokens before)
      ∧ ((s.afterOperand && !s.textGap) = true → ∃ front back,
        (∀ times : Token, times.lexeme = .operator .mul → ofTokens (before ++ [times])
          = front ++ ⟨.operate .mul, some times.start, some times.stop⟩ :: back)
        ∧ ∀ inside, (s.openBracket b opening.start).FailsInside inside →
          ofTokens (before ++ opening :: inside) = front ++ ⟨.operate .mul, none, none⟩ :: back)
      ∧ ∀ inside inside', (s.openBracket b opening.start).FailsInside inside →
        (s.openBracket b opening.start).FailsInside inside' →
        ofTokens (before ++ opening :: inside) = ofTokens (before ++ opening :: inside'))
    ∧ ∀ tokens fault, fault? tokens = some fault → ∃ before t after,
        tokens = before ++ t :: after ∧ IsCut .initial before t after := by
  refine ⟨fun before closing after s b taken outside closes => ?_,
    fun before opening s b taken outside opens => ?_, fun tokens fault failed => ?_⟩
  · rw [ofTokens_append_of_takeAll taken, ofTokens_eq_stepsThrough_nil taken, State.stepsThrough,
      run, State.take_closing_outside outside closes]
    rfl
  · have opened : s.take opening = .ok (s.openBracket b opening.start) := by
      simp [State.take, opens]
    have cut (inside : List Token) (fails : (s.openBracket b opening.start).FailsInside inside) :
        ofTokens (before ++ opening :: inside) = s.beginOperand.stepsThrough [] := by
      rw [ofTokens_append_of_takeAll taken, State.stepsThrough, run, opened]
      exact fails.stepsThrough_openBracket outside
    refine ⟨fun apart inside fails => ?_, fun joined => ?_, fun inside inside' fails fails' => ?_⟩
    · rw [cut inside fails, State.beginOperand, if_neg (by simp [apart]),
        ofTokens_eq_stepsThrough_nil taken]
    · obtain ⟨front, back, waits⟩ := State.stepsThrough_times outside
      refine ⟨front, back, fun times sign => ?_, fun inside fails => ?_⟩
      · have after : s.afterOperand = true := (Bool.and_eq_true_iff.1 joined).1
        rw [ofTokens_append_of_takeAll taken, State.stepsThrough, run,
          State.take_operator sign after]
        exact waits _ _
      · rw [cut inside fails, State.beginOperand, if_pos joined]
        exact waits none none
    · rw [cut inside fails, cut inside' fails']
  · refine (failsInside_or_exists_isCut failed).resolve_left fun inside => ?_
    exact inside.frames_ne_nil rfl

/-- In `2(3]` the closing bracket cuts off the group, but not the multiplication before it. In `(3]`
it leaves nothing, and in `2]3` what stands before it. -/
theorem ofTokens_cut_mismatched :
    let two : Token := ⟨.operand (.number (.ofNat 2)), 0, 1⟩
    let opening : Token := ⟨.opening .round, 1, 2⟩
    let three : Token := ⟨.operand (.number (.ofNat 3)), 2, 3⟩
    let closing : Token := ⟨.closing .square, 3, 4⟩
    (∃ s, takeAll .initial [two] = .ok s ∧ s.frames = [] ∧ (s.afterOperand && !s.textGap) = true
      ∧ (s.openBracket .round 1).FailsInside [three, closing]
      ∧ ofTokens ([two] ++ closing :: [three]) = ofTokens [two]
      ∧ ∃ front back, ofTokens ([two] ++ [⟨.operator .mul, 1, 1⟩])
          = front ++ ⟨.operate .mul, some 1, some 1⟩ :: back
        ∧ ofTokens ([two] ++ opening :: [three, closing])
          = front ++ ⟨.operate .mul, none, none⟩ :: back)
    ∧ (State.initial.openBracket .round 1).FailsInside [three, closing]
    ∧ ofTokens ([] ++ opening :: [three, closing]) = ofTokens []
    ∧ fault? [two, opening, three, closing] = some .unexpectedClosing
    ∧ ∃ before t after, [two, opening, three, closing] = before ++ t :: after
      ∧ IsCut .initial before t after := by
  intro two opening three closing
  obtain ⟨closes, opens, exists_⟩ := ofTokens_cut
  have fails (s : State) : (s.openBracket .round 1).FailsInside [three, closing] := by
    refine ⟨nofun, fun next taken => ⟨?_, fun next' taken' => ?_⟩⟩
    · obtain rfl := Except.ok.inj taken
      exact nofun
    · obtain rfl := Except.ok.inj taken
      exact nomatch taken'
  obtain ⟨-, joined, -⟩ := opens [two] opening _ .round rfl rfl rfl
  obtain ⟨front, back, times, cut⟩ := joined rfl
  have fault : fault? [two, opening, three, closing] = some .unexpectedClosing := rfl
  exact ⟨⟨_, rfl, rfl, rfl, fails _, closes [two] closing [three] _ .square rfl rfl rfl,
      front, back, times ⟨.operator .mul, 1, 1⟩ rfl, cut _ (fails _)⟩, fails _,
    (opens [] opening _ .round rfl rfl rfl).1 rfl _ (fails _), fault, exists_ _ _ fault⟩

end CalcSheet.Postfix
