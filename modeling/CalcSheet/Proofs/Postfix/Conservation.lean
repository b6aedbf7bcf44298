import Mathlib.Data.List.Perm.Subperm
import CalcSheet.Proofs.Postfix.Enclosed
import CalcSheet.Proofs.Postfix.Remarks

/-!
# What becomes of the tokens of a line

Whatever stands on a line whose brackets fit, its operands come out in their order, and its
operators come out once each, in another order; only a plus sign before an operand is dropped.
Besides them there are the units and conversions of the line, a multiplication for each two operands
side by side, and a matrix for each pair of square brackets with a separator in it.
-/
namespace CalcSheet

/-- Operators wait before they are finished. Other actions are finished at once. -/
def Action.waits : Action → Bool
  | .operate _ | .negate => true
  | _ => false

def Action.isPush : Action → Bool
  | .push _ => true
  | _ => false

/-- The beginning of a matrix. -/
def Step.matrixFrom? (step : Step) : Option (Option Nat) :=
  match step.action with
  | .matrix _ _ => some step.start?
  | _ => none

namespace Postfix
variable {s s' : State} {t : Token} {ts tokens : List Token} {frame : Frame} {outer : List Frame}
  {xs ys zs ys' zs' : List Step}

/-! ### Steps that are added to others -/

/-- All of `added` has come to the steps before, and nothing was lost. What does not wait has come
behind what did not wait before. -/
structure Gains (before added after : List Step) : Prop where
  perm : after.Perm (before ++ added)
  order : after.filter (!·.action.waits)
    = before.filter (!·.action.waits) ++ added.filter (!·.action.waits)

namespace Gains

theorem refl (xs : List Step) : Gains xs [] xs := ⟨by simp, by simp⟩

theorem trans (first : Gains xs ys zs) (second : Gains zs ys' zs') :
    Gains xs (ys ++ ys') zs' where
  perm := by
    rw [← List.append_assoc]
    exact second.perm.trans (first.perm.append_right ys')
  order := by simp [second.order, first.order]

theorem behind (h : Gains xs ys zs) (ws : List Step) : Gains (ws ++ xs) ys (ws ++ zs) where
  perm := by
    rw [List.append_assoc]
    exact h.perm.append_left ws
  order := by simp [h.order]

end Gains

theorem Waiting.waits_toStep (w : Waiting) : w.toStep.action.waits = true := by
  rcases w with ⟨op | _, _, _⟩ <;> rfl

@[simp] theorem filter_map_toStep (ws : List Waiting) :
    (ws.map Waiting.toStep).filter (!·.action.waits) = [] := by
  simp [List.filter_eq_nil_iff, Waiting.waits_toStep]

namespace Level
variable (l : Level)

@[simp] theorem flush_flush : l.flush.flush = l.flush := by simp [flush]

@[simp] theorem filter_flush :
    l.flush.output.filter (!·.action.waits) = l.output.filter (!·.action.waits) := by
  simp [flush]

theorem gains_wait (w : Waiting) : Gains l.flush.output [w.toStep] (l.wait w).flush.output where
  perm := l.wait_flush_perm w
  order := by
    rw [filter_flush, filter_flush]
    simp [wait, Waiting.waits_toStep]

theorem gains_minus (w : Waiting) :
    Gains l.flush.output [w.toStep] (flush ⟨l.output, w :: l.waiting⟩).output where
  perm := by
    rw [flush, flush, List.map_cons]
    exact List.perm_middle.trans (List.perm_append_singleton _ _).symm
  order := by simp [flush, Waiting.waits_toStep]

/-- Steps from inside of brackets, and a step for the brackets themselves, come to those around. -/
theorem gains_append (inner added : List Step) :
    Gains (l.flush.output ++ inner) added
      (flush ⟨l.output ++ inner ++ added, l.waiting⟩).output where
  perm := by
    simp only [flush, List.append_assoc]
    refine List.Perm.append_left _ ?_
    rw [← List.append_assoc]
    exact List.perm_append_comm
  order := by simp [flush]

theorem gains_emit (step : Step) :
    Gains l.flush.output [step] (flush ⟨l.output ++ [step], l.waiting⟩).output := by
  simpa using l.gains_append [] [step]

end Level

/-! ### Steps of a state -/

/-- The steps of the levels around open brackets, the outermost first. -/
def stepsAround : List Frame → List Step
  | [] => []
  | frame :: outer => stepsAround outer ++ frame.outer.flush.output

namespace State

/-- All steps of a state, with those that still wait. -/
def allSteps (s : State) : List Step := stepsAround s.frames ++ s.level.flush.output

/-- A multiplication where an operand stands right behind another one. -/
def juxtaposition (s : State) : List Step :=
  if s.afterOperand && !s.textGap then [⟨.operate .mul, none, none⟩] else []

/-- A matrix where square brackets with a separator close. -/
def closingMatrix (s : State) : List Step :=
  match s.frames with
  | frame :: _ =>
      if frame.layout.hasSeparator then
        [⟨.matrix (frame.layout.rows + 1) (frame.layout.current + 1), some frame.start, none⟩]
      else []
  | [] => []

/-- The steps that come with a token. -/
def adds (s : State) (t : Token) : List Step :=
  let own (a : Action) : Step := ⟨a, some t.start, some t.stop⟩
  match t.lexeme with
  | .operand o => s.juxtaposition ++ [own (.push o)]
  | .unit u => if s.afterOperand && !s.textGap then [own (.attach u)] else []
  | .conversion u => [own (.convert u)]
  | .opening _ => s.juxtaposition
  | .closing _ => s.closingMatrix
  | .operator op =>
      if s.afterOperand then [own (.operate op)]
      else match op with
        | .sub => [own .negate]
        | .add => []
        | _ => [own (.operate op)]
  | _ => []

theorem gains_level {l : Level} {added : List Step} (frames : s'.frames = s.frames)
    (level : s'.level = l) (h : Gains s.level.flush.output added l.flush.output) :
    Gains s.allSteps added s'.allSteps := by
  rw [allSteps, allSteps, frames, level]
  exact h.behind _

theorem gains_same (frames : s'.frames = s.frames) (level : s'.level = s.level) :
    Gains s.allSteps [] s'.allSteps := gains_level frames level (.refl _)

theorem gains_beginOperand (s : State) :
    Gains s.allSteps s.juxtaposition s.beginOperand.allSteps := by
  unfold beginOperand juxtaposition
  split
  · exact gains_level rfl rfl (s.level.gains_wait ⟨.operator .mul, none, none⟩)
  · exact .refl _

theorem gains_openBracket (s : State) (b : Bracket) (start : Nat) :
    Gains s.allSteps s.juxtaposition (s.openBracket b start).allSteps := by
  have same : (s.openBracket b start).allSteps = s.beginOperand.allSteps := by
    simp [allSteps, openBracket, stepsAround, Level.empty, Level.flush]
  rw [same]
  exact s.gains_beginOperand

theorem gains_endCell {endsRow : Bool} (frames : s.frames = frame :: outer)
    (ended : s.endCell frame outer endsRow = .ok s') : Gains s.allSteps [] s'.allSteps := by
  obtain ⟨layout, level, frames', -⟩ := endCell_eq_ok ended
  have same : s'.allSteps = s.allSteps := by simp [allSteps, stepsAround, level, frames', frames]
  rw [same]
  exact .refl _

theorem gains_separate {endsRow : Bool} (separated : s.separate endsRow = .ok s') :
    Gains s.allSteps [] s'.allSteps := by
  rcases separate_eq_ok separated with ⟨-, rfl⟩ | ⟨frame, outer, frames, -, ended⟩
  · exact gains_same rfl rfl
  · exact gains_endCell frames ended

/-- What closes a pair of brackets brings its steps to those around it. -/
theorem gains_around {added : List Step} (frames : s.frames = frame :: s'.frames)
    (level : s'.level
      = ⟨frame.outer.output ++ s.level.flush.output ++ added, frame.outer.waiting⟩) :
    Gains s.allSteps added s'.allSteps := by
  rw [allSteps, allSteps, frames, level, stepsAround, List.append_assoc]
  exact (frame.outer.gains_append _ _).behind _

theorem gains_close {b : Bracket} (closed : s.close b = .ok s') :
    Gains s.allSteps s.closingMatrix s'.allSteps := by
  obtain ⟨frame, outer, frames, -, ⟨cells, closed⟩ | ⟨cells, rfl⟩⟩ := close_eq_ok closed
  · obtain ⟨-, -, rfl⟩ := closeMatrix_eq_ok closed
    have matrix : s.closingMatrix = [⟨.matrix (frame.layout.rows + 1) (frame.layout.current + 1),
        some frame.start, none⟩] := by simp [closingMatrix, frames, cells]
    rw [matrix]
    exact gains_around frames rfl
  · have nothing : s.closingMatrix = [] := by simp [closingMatrix, frames, cells]
    rw [nothing, closeGroup_eq]
    exact gains_around frames (by rw [List.append_nil])

/-- A token brings its steps to those of the tokens before it. -/
theorem gains_take (other : t.lexeme ≠ .assign) (taken : s.take t = .ok s') :
    Gains s.allSteps (s.adds t) s'.allSteps := by
  unfold take at taken
  unfold adds
  cases lexeme : t.lexeme with
  | text u =>
    rw [lexeme] at taken
    obtain rfl := Except.ok.inj taken
    dsimp only
    split <;> exact .refl _
  | operand o =>
    rw [lexeme] at taken
    obtain rfl := Except.ok.inj taken
    exact s.gains_beginOperand.trans (gains_level rfl rfl (s.beginOperand.level.gains_emit _))
  | unit u =>
    rw [lexeme] at taken
    obtain rfl := Except.ok.inj taken
    dsimp only
    split
    · exact gains_level rfl rfl (s.level.gains_emit _)
    · exact .refl _
  | conversion u =>
    rw [lexeme] at taken
    obtain rfl := Except.ok.inj taken
    have flushed := s.level.flush.gains_emit ⟨.convert u, some t.start, some t.stop⟩
    rw [s.level.flush_flush] at flushed
    exact gains_level rfl rfl flushed
  | opening b =>
    rw [lexeme] at taken
    obtain rfl := Except.ok.inj taken
    exact s.gains_openBracket b t.start
  | closing b =>
    rw [lexeme] at taken
    exact gains_close taken
  | comma | semicolon =>
    rw [lexeme] at taken
    exact gains_separate taken
  | assign => exact absurd lexeme other
  | operator op =>
    rw [lexeme] at taken
    obtain rfl := Except.ok.inj taken
    have waits (op : BinaryOp) : Gains s.allSteps [⟨.operate op, some t.start, some t.stop⟩]
        (s.pushOperator ⟨.operator op, some t.start, some t.stop⟩).allSteps :=
      gains_level rfl rfl (s.level.gains_wait ⟨.operator op, some t.start, some t.stop⟩)
    dsimp only
    split
    · exact waits op
    · cases op with
      | sub => exact gains_level rfl rfl (s.level.gains_minus ⟨.minus, some t.start, some t.stop⟩)
      | add => exact .refl _
      | _ => exact waits _

/-! ### Steps of a line -/

/-- The steps that come with tokens one after the other. -/
def addsThrough : State → List Token → List Step
  | _, [] => []
  | s, t :: ts => s.adds t ++ match s.take t with
      | .ok next => addsThrough next ts
      | .error _ => []

theorem addsThrough_cons (taken : s.take t = .ok s') (ts : List Token) :
    s.addsThrough (t :: ts) = s.adds t ++ s'.addsThrough ts := by
  rw [addsThrough, taken]

theorem gains_takeAll (others : ∀ t ∈ ts, t.lexeme ≠ .assign) (taken : takeAll s ts = .ok s') :
    Gains s.allSteps (s.addsThrough ts) s'.allSteps := by
  induction ts generalizing s with
  | nil =>
    obtain rfl := Except.ok.inj taken
    exact .refl _
  | cons t ts ih =>
    obtain ⟨here, later⟩ := List.forall_mem_cons.1 others
    obtain ⟨next, first, rest⟩ := bind_eq_ok taken
    rw [addsThrough_cons first]
    exact (gains_take here first).trans (ih later rest)

/-- What each token adds of some kind, all tokens add. -/
theorem filterMap_addsThrough {β : Type} {f : Step → Option β} {g : Token → Option β}
    (each : ∀ s t, (State.adds s t).filterMap f = (g t).toList) (taken : takeAll s ts = .ok s') :
    (s.addsThrough ts).filterMap f = ts.filterMap g := by
  induction ts generalizing s with
  | nil => rfl
  | cons t ts ih =>
    obtain ⟨next, first, rest⟩ := bind_eq_ok taken
    rw [addsThrough_cons first, List.filterMap_append, each, ih rest, List.filterMap_cons]
    cases g t <;> rfl

end State

theorem Gains.filterMap_eq {β : Type} {f : Step → Option β} (h : Gains xs ys zs)
    (ready : ∀ step, step.action.waits = true → f step = none) :
    zs.filterMap f = xs.filterMap f ++ ys.filterMap f := by
  have skip (ws : List Step) : (ws.filter (!·.action.waits)).filterMap f = ws.filterMap f := by
    rw [List.filterMap_filter]
    congr 1
    funext step
    cases waits : step.action.waits with
    | true => simp [ready step waits]
    | false => rfl
  rw [← skip zs, h.order, List.filterMap_append, skip, skip]

/-- The steps of a line come with its tokens. -/
theorem gains_ofTokens (others : ∀ t ∈ tokens, t.lexeme ≠ .assign)
    (faultless : fault? tokens = none) :
    (∃ s, takeAll .initial tokens = .ok s)
      ∧ Gains [] (State.addsThrough .initial tokens) (ofTokens tokens) := by
  obtain ⟨s, taken, closed⟩ := run_eq_none_iff.1 faultless
  have gains := State.gains_takeAll others taken
  have assignment : s.assignment = none := by
    have kept := assignment_run (s := .initial) others
    rwa [run_eq_of_takeAll taken] at kept
  have final : s.allSteps = ofTokens tokens := by
    simp [State.allSteps, closed, stepsAround, ofTokens_of_takeAll taken closed, assignment]
  rw [final] at gains
  exact ⟨⟨s, taken⟩, gains⟩

/-! ### Operands -/

/-- The step of an operand. -/
def ownPush? (t : Token) : Option Step :=
  match t.lexeme with
  | .operand o => some ⟨.push o, some t.start, some t.stop⟩
  | _ => none

theorem State.filterMap_isPush_adds (s : State) (t : Token) :
    (s.adds t).filterMap (Option.guard (·.action.isPush)) = (ownPush? t).toList := by
  have none_ : s.juxtaposition.filterMap (Option.guard (·.action.isPush)) = [] := by
    unfold juxtaposition
    split <;> rfl
  unfold adds ownPush?
  cases lexeme : t.lexeme with
  | operand o =>
    rw [List.filterMap_append, none_]
    rfl
  | opening b => exact none_
  | unit u =>
    dsimp only
    split <;> rfl
  | closing b =>
    simp only [closingMatrix]
    split
    · split <;> rfl
    · rfl
  | operator op =>
    dsimp only
    split
    · rfl
    · cases op <;> rfl
  | _ => rfl

/-! ### Signs -/

/-- The sign of an operator, with its place on the line. -/
structure Sign where
  op : BinaryOp
  start? : Option Nat
  stop? : Option Nat
  deriving DecidableEq, Repr

def Sign.ofToken? (t : Token) : Option Sign :=
  match t.lexeme with
  | .operator op => some ⟨op, some t.start, some t.stop⟩
  | _ => none

/-- A minus sign before an operand is a minus sign, too. Where operands are multiplied without a
sign, there is none. -/
def Sign.ofStep? (step : Step) : Option Sign :=
  match step with
  | ⟨.operate _, none, none⟩ => none
  | ⟨.operate op, start?, stop?⟩ => some ⟨op, start?, stop?⟩
  | ⟨.negate, start?, stop?⟩ => some ⟨.sub, start?, stop?⟩
  | _ => none

/-- A token leaves the sign that it is, unless it is a plus sign that is dropped. -/
theorem State.filterMap_sign_adds (s : State) (t : Token) :
    (s.adds t).filterMap Sign.ofStep? = (Sign.ofToken? t).toList
      ∨ ((Sign.ofToken? t).map Sign.op = some .add ∧ s.adds t = []) := by
  have none_ : s.juxtaposition.filterMap Sign.ofStep? = [] := by
    unfold juxtaposition
    split <;> rfl
  unfold adds Sign.ofToken?
  cases lexeme : t.lexeme with
  | operand o => exact .inl (by simp [none_, Sign.ofStep?])
  | opening b => exact .inl none_
  | unit u =>
    dsimp only
    split <;> exact .inl rfl
  | closing b =>
    simp only [closingMatrix]
    split
    · split <;> exact .inl rfl
    · exact .inl rfl
  | operator op =>
    dsimp only
    split
    · exact .inl rfl
    · cases op with
      | add => exact .inr ⟨rfl, rfl⟩
      | _ => exact .inl rfl
  | _ => exact .inl rfl

theorem State.signs_addsThrough (taken : takeAll s ts = .ok s') :
    ((s.addsThrough ts).filterMap Sign.ofStep?).Sublist (ts.filterMap Sign.ofToken?)
      ∧ ((s.addsThrough ts).filterMap Sign.ofStep?).filter (·.op ≠ .add)
        = (ts.filterMap Sign.ofToken?).filter (·.op ≠ .add) := by
  induction ts generalizing s with
  | nil => exact ⟨.slnil, rfl⟩
  | cons t ts ih =>
    obtain ⟨next, first, rest⟩ := bind_eq_ok taken
    obtain ⟨sublist, same⟩ := ih rest
    have whole : (t :: ts).filterMap Sign.ofToken?
        = (Sign.ofToken? t).toList ++ ts.filterMap Sign.ofToken? := by
      rw [List.filterMap_cons]
      cases Sign.ofToken? t <;> rfl
    rw [addsThrough_cons first, List.filterMap_append, whole, List.filter_append,
      List.filter_append, same]
    rcases s.filterMap_sign_adds t with here | ⟨plus, none_⟩
    · rw [here]
      exact ⟨sublist.append_left _, rfl⟩
    · obtain ⟨sign, known, add⟩ := Option.map_eq_some_iff.1 plus
      rw [none_, known]
      exact ⟨sublist.trans (List.sublist_append_right _ _), by simp [add]⟩

/-! ### Matrices -/

/-- An open bracket, and whether a separator has come directly inside of it. -/
structure Unclosed where
  bracket : Bracket
  start : Nat
  separated : Bool

namespace Unclosed

/-- The brackets that are open behind a token. Inside of round ones, nothing separates. -/
def behind (unclosed : List Unclosed) (t : Token) : List Unclosed :=
  match t.lexeme, unclosed with
  | .opening b, _ => ⟨b, t.start, false⟩ :: unclosed
  | .closing _, _ :: outer => outer
  | .comma, u :: outer | .semicolon, u :: outer =>
      { u with separated := u.separated || u.bracket == .square } :: outer
  | _, _ => unclosed

/-- The beginning of the brackets that a token closes, if they hold a separator. -/
def closedBy? (unclosed : List Unclosed) (t : Token) : Option Nat :=
  match t.lexeme, unclosed with
  | .closing _, u :: _ => if u.separated then some u.start else none
  | _, _ => none

/-- The beginnings of all brackets that hold a separator, in the order in which they close. -/
def separatedFrom : List Unclosed → List Token → List Nat
  | _, [] => []
  | unclosed, t :: ts => (closedBy? unclosed t).toList ++ separatedFrom (behind unclosed t) ts

def ofFrame (frame : Frame) : Unclosed := ⟨frame.bracket, frame.start, frame.layout.hasSeparator⟩

end Unclosed

namespace State

theorem filterMap_matrixFrom_adds (s : State) (t : Token) :
    (s.adds t).filterMap Step.matrixFrom?
      = (Unclosed.closedBy? (s.frames.map .ofFrame) t).toList.map some := by
  have none_ : s.juxtaposition.filterMap Step.matrixFrom? = [] := by
    unfold juxtaposition
    split <;> rfl
  unfold adds Unclosed.closedBy?
  cases lexeme : t.lexeme with
  | operand o => simp [none_, Step.matrixFrom?]
  | opening b => simp [none_]
  | unit u =>
    dsimp only
    split <;> rfl
  | closing b =>
    cases frames : s.frames with
    | nil => simp [closingMatrix, frames]
    | cons frame outer =>
      cases held : frame.layout.hasSeparator <;>
        simp [closingMatrix, frames, held, Unclosed.ofFrame, Step.matrixFrom?]
  | operator op =>
    dsimp only
    split
    · rfl
    · cases op <;> rfl
  | _ => rfl

/-- Tokens that leave the open brackets as they are do not separate in them. -/
theorem unclosed_inside (plain : ∀ b, t.lexeme ≠ .opening b ∧ t.lexeme ≠ .closing b)
    (apart : t.lexeme = .comma ∨ t.lexeme = .semicolon →
      ∀ frame ∈ s.frames.head?, frame.bracket ≠ .square) :
    Unclosed.behind (s.frames.map .ofFrame) t = s.frames.map .ofFrame := by
  unfold Unclosed.behind
  cases lexeme : t.lexeme with
  | opening b => exact absurd lexeme (plain b).1
  | closing b => exact absurd lexeme (plain b).2
  | comma | semicolon =>
    cases frames : s.frames with
    | nil => rfl
    | cons frame outer =>
      have round : frame.bracket ≠ .square :=
        apart (by simp [lexeme]) frame (by rw [frames]; rfl)
      simp [Unclosed.ofFrame, round]
  | _ => rfl

theorem unclosed_take (other : t.lexeme ≠ .assign) (taken : s.take t = .ok s') :
    s'.frames.map .ofFrame = Unclosed.behind (s.frames.map .ofFrame) t := by
  cases leadsTo_of_take taken with
  | inside frames _ plain apart => rw [frames, unclosed_inside plain apart]
  | opening lexeme =>
    simp [Unclosed.behind, lexeme, openBracket, frames_beginOperand, Unclosed.ofFrame,
      Layout.empty]
  | closing lexeme closed =>
    obtain ⟨frame, frames⟩ := frames_close closed
    simp [Unclosed.behind, lexeme, frames]
  | @separator frame outer endsRow _ lexeme frames square ended =>
    obtain ⟨-, -, rfl⟩ := endCell_eq_ok_iff.1 ended
    have held : (frame.layout.next endsRow).hasSeparator = true := by
      cases endsRow <;> rfl
    rcases lexeme with lexeme | lexeme <;>
      simp [Unclosed.behind, lexeme, frames, Unclosed.ofFrame, held, square]
  | assignment assigns => exact absurd assigns other

/-- A matrix comes with each pair of brackets that closes with a separator in it. -/
theorem matrices_addsThrough (others : ∀ t ∈ ts, t.lexeme ≠ .assign)
    (taken : takeAll s ts = .ok s') :
    (s.addsThrough ts).filterMap Step.matrixFrom?
      = (Unclosed.separatedFrom (s.frames.map .ofFrame) ts).map some := by
  induction ts generalizing s with
  | nil => rfl
  | cons t ts ih =>
    obtain ⟨here, later⟩ := List.forall_mem_cons.1 others
    obtain ⟨next, first, rest⟩ := bind_eq_ok taken
    rw [addsThrough_cons first, List.filterMap_append, filterMap_matrixFrom_adds, ih later rest,
      unclosed_take here first, Unclosed.separatedFrom, List.map_append]

end State

/-- A line whose brackets fit has the operands of its tokens, in their order. Their signs are those
of its tokens, but for plus signs that are dropped, and its matrices are the closed brackets with a
separator in them. -/
theorem ofTokens_keeps (others : ∀ t ∈ tokens, t.lexeme ≠ .assign)
    (faultless : fault? tokens = none) :
    (ofTokens tokens).filter (·.action.isPush) = tokens.filterMap ownPush?
    ∧ (((ofTokens tokens).filterMap Sign.ofStep?).filter (·.op ≠ .add)).Perm
      ((tokens.filterMap Sign.ofToken?).filter (·.op ≠ .add))
    ∧ ((ofTokens tokens).filterMap Sign.ofStep?).Subperm (tokens.filterMap Sign.ofToken?)
    ∧ (ofTokens tokens).filterMap Step.matrixFrom?
      = (Unclosed.separatedFrom [] tokens).map some := by
  obtain ⟨⟨s, taken⟩, gains⟩ := gains_ofTokens others faultless
  have signs := gains.perm.filterMap Sign.ofStep?
  obtain ⟨sublist, same⟩ := State.signs_addsThrough taken
  refine ⟨?_, ?_, ?_, ?_⟩
  · have pushes := gains.filterMap_eq (f := Option.guard (·.action.isPush)) fun step waits => by
      obtain ⟨action, _, _⟩ := step
      cases action <;> first | rfl | exact nomatch waits
    rw [← List.filterMap_eq_filter, pushes]
    exact State.filterMap_addsThrough State.filterMap_isPush_adds taken
  · rw [← same]
    exact signs.filter _
  · exact signs.subperm.trans sublist.subperm
  · have matrices := gains.filterMap_eq (f := Step.matrixFrom?) fun step waits => by
      obtain ⟨action, _, _⟩ := step
      cases action <;> first | rfl | exact nomatch waits
    rw [matrices]
    exact State.matrices_addsThrough others taken

/-- In `2 + -[3; (4 /)] + +` operands are missing, and still nothing but a plus sign gets lost. -/
theorem ofTokens_keeps_malformed :
    let line : List Token := [⟨.operand (.number (.ofNat 2)), 0, 1⟩, ⟨.operator .add, 2, 3⟩,
      ⟨.operator .sub, 4, 5⟩, ⟨.opening .square, 5, 6⟩, ⟨.operand (.number (.ofNat 3)), 6, 7⟩,
      ⟨.semicolon, 7, 8⟩, ⟨.opening .round, 9, 10⟩, ⟨.operand (.number (.ofNat 4)), 10, 11⟩,
      ⟨.operator .div, 12, 13⟩, ⟨.closing .round, 13, 14⟩, ⟨.closing .square, 14, 15⟩,
      ⟨.operator .add, 16, 17⟩, ⟨.operator .add, 18, 19⟩]
    (∀ t ∈ line, t.lexeme ≠ .assign) ∧ fault? line = none
      ∧ (ofTokens line).filter (·.action.isPush)
        = [⟨.push (.number (.ofNat 2)), some 0, some 1⟩,
          ⟨.push (.number (.ofNat 3)), some 6, some 7⟩,
          ⟨.push (.number (.ofNat 4)), some 10, some 11⟩]
      ∧ (((ofTokens line).filterMap Sign.ofStep?).filter (·.op ≠ .add)).Perm
        [⟨.sub, some 4, some 5⟩, ⟨.div, some 12, some 13⟩]
      ∧ ((ofTokens line).filterMap Sign.ofStep?).Subperm [⟨.add, some 2, some 3⟩,
        ⟨.sub, some 4, some 5⟩, ⟨.div, some 12, some 13⟩, ⟨.add, some 16, some 17⟩,
        ⟨.add, some 18, some 19⟩]
      ∧ (ofTokens line).filterMap Step.matrixFrom? = [some 5] := by
  intro line
  have others : ∀ t ∈ line, t.lexeme ≠ .assign := by simp [line]
  have faultless : fault? line = none := rfl
  exact ⟨others, faultless, ofTokens_keeps others faultless⟩

end Postfix
end CalcSheet
