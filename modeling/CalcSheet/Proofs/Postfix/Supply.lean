import CalcSheet.Proofs.Evaluation.Heights
import CalcSheet.Proofs.Postfix.Enclosed

/-!
# Operators that find their operands

Where no operator, conversion or closing bracket stands in the place of an operand, the steps of a
line find all their operands. Text between two operands leaves a value too many behind, and no
token takes such a value away: not even a matrix, which takes no more than the values of its cells.
-/
namespace CalcSheet.Postfix

/-! ### Levels -/

/-- How many of the values on the stack the waiting operators will use up. -/
def awaited : List Waiting → Nat
  | [] => 0
  | w :: ws => w.toStep.action.arity - 1 + awaited ws

/-- The steps of a level find their operands and leave `n` values, once the waiting operators have
finished. -/
def Level.Has (l : Level) (n : Nat) : Prop :=
  heightAfter? 0 l.output = some (n + awaited l.waiting)

variable {l : Level} {n : Nat} {output : List Step} {ws vs : List Waiting}
  {step : Step} {w : Waiting}

theorem Waiting.toStep_ne_assign (w : Waiting) : w.toStep.action ≠ .assign := by
  rcases w with ⟨op | _, _, _⟩ <;> exact nofun

theorem Waiting.one_le_arity (w : Waiting) : 1 ≤ w.toStep.action.arity := by
  rcases w with ⟨op | _, _, _⟩
  · exact Nat.le_succ 1
  · exact Nat.le_refl 1

namespace Level

/-- Waiting operators finish, if there are values for them at all. -/
theorem Has.finish (h : Has ⟨output, ws ++ vs⟩ n) (some_ : 0 < n ∨ ws = []) :
    Has ⟨output ++ ws.map Waiting.toStep, vs⟩ n := by
  induction ws generalizing output with
  | nil => simpa using h
  | cons w ws ih =>
    have pos : 0 < n := some_.resolve_right nofun
    have next : Has ⟨output ++ [w.toStep], ws ++ vs⟩ n := by
      have arity := w.one_le_arity
      have height : heightAfter? 0 output
          = some (n + (w.toStep.action.arity - 1 + awaited (ws ++ vs))) := h
      have after := heightAfter?_concat height w.toStep_ne_assign (by omega)
      have left : n + (w.toStep.action.arity - 1 + awaited (ws ++ vs)) - w.toStep.action.arity + 1
          = n + awaited (ws ++ vs) := by omega
      exact after.trans (congrArg some left)
    simpa using ih next (.inl pos)

theorem Has.flush (h : l.Has n) (some_ : 0 < n ∨ l.waiting = []) : l.flush.Has n := by
  have whole : Has ⟨l.output, l.waiting ++ []⟩ n := by rwa [List.append_nil]
  exact whole.finish some_

/-- An operator with a left operand uses a value up, as it is to take another one. -/
theorem Has.wait (h : l.Has (n + 1)) (binary : w.toStep.action.arity = 2) : (l.wait w).Has n := by
  unfold Level.wait
  dsimp only
  generalize finished : l.waiting.takeWhile _ = ws
  have whole : l.waiting = ws ++ l.waiting.drop ws.length := by
    rw [← finished]
    exact (List.prefix_iff_eq_append.1 (List.takeWhile_prefix _)).symm
  have all : Has ⟨l.output, ws ++ l.waiting.drop ws.length⟩ (n + 1) := by rwa [← whole]
  have rest := all.finish (.inl n.succ_pos)
  have left : n + 1 + awaited (l.waiting.drop ws.length)
      = n + awaited (w :: l.waiting.drop ws.length) := by
    rw [awaited, binary]
    omega
  exact rest.trans (congrArg some left)

/-- A further step finds its operands among the values. -/
theorem Has.emit (h : l.Has n) (runs : step.action ≠ .assign) (room : step.action.arity ≤ n) :
    Has ⟨l.output ++ [step], l.waiting⟩ (n - step.action.arity + 1) := by
  have after := heightAfter?_concat h runs (Nat.le_add_right_of_le room)
  have left : n + awaited l.waiting - step.action.arity + 1
      = n - step.action.arity + 1 + awaited l.waiting := by omega
  exact after.trans (congrArg some left)

/-- Steps that find their operands among their own values are added to those of a level. -/
theorem Has.append {k : Nat} {steps : List Step} (h : l.Has n)
    (more : heightAfter? 0 steps = some k) : Has ⟨l.output ++ steps, l.waiting⟩ (n + k) := by
  have after := heightAfter?_append_of_eq h more
  exact after.trans (congrArg some (Nat.add_right_comm n _ k))

/-- The steps of a level find their operands and leave a value for each finished cell and one for
the operand that has been read, if there is one, besides some values too many. -/
structure Leaves (l : Level) (cells : Nat) (operand : Bool) (excess : Nat) : Prop where
  has : l.Has (cells + operand.toNat + excess)
  empty : operand = false → l.waiting = [] → cells = 0 → l.output = []

theorem leaves_empty : Level.empty.Leaves 0 false 0 := ⟨rfl, fun _ _ _ => rfl⟩

variable {cells excess : Nat} {operand : Bool}

theorem Leaves.wait (h : l.Leaves cells true excess) (binary : w.toStep.action.arity = 2) :
    (l.wait w).Leaves cells false excess where
  has := by
    refine Has.wait ?_ binary
    have has := h.has
    rwa [Bool.toNat_true, Nat.add_right_comm] at has
  empty := fun _ none _ => nomatch none

theorem Leaves.minus (h : l.Leaves cells operand excess) (unary : w.toStep.action.arity = 1) :
    Leaves ⟨l.output, w :: l.waiting⟩ cells operand excess where
  has := by
    have same : awaited (w :: l.waiting) = awaited l.waiting := by
      rw [awaited, unary, Nat.sub_self, Nat.zero_add]
    change heightAfter? 0 l.output = some (_ + awaited (w :: l.waiting))
    rw [same]
    exact h.has
  empty := fun _ none _ => nomatch none

theorem Leaves.emit (h : l.Leaves cells true excess) (runs : step.action ≠ .assign)
    (unary : step.action.arity = 1) : Leaves ⟨l.output ++ [step], l.waiting⟩ cells true excess where
  has := by
    have room : step.action.arity ≤ cells + true.toNat + excess := by
      rw [unary, Bool.toNat_true]
      omega
    have has := h.has.emit runs room
    rwa [unary, Nat.sub_add_cancel (unary ▸ room)] at has
  empty := nofun

theorem Leaves.flush (h : l.Leaves cells operand excess)
    (settled : operand = true ∨ l.waiting = []) : l.flush.Leaves cells operand excess where
  has := by
    refine h.has.flush (settled.imp_left fun read => ?_)
    rw [read, Bool.toNat_true]
    omega
  empty := by
    intro unread _ none
    have waiting := settled.resolve_left (by rw [unread]; exact nofun)
    simp [Level.flush, waiting, h.empty unread waiting none]

/-- What comes in as the next operand leaves an operand before it as a value too many. -/
theorem Leaves.append {k : Nat} {steps : List Step} (h : l.Leaves cells operand excess)
    (more : heightAfter? 0 steps = some (k + 1)) :
    Leaves ⟨l.output ++ steps, l.waiting⟩ cells true (operand.toNat + excess + k) where
  has := by
    have has := h.has.append more
    rwa [show cells + operand.toNat + excess + (k + 1)
      = cells + true.toNat + (operand.toNat + excess + k) by rw [Bool.toNat_true]; omega] at has
  empty := nofun

end Level

/-! ### Layouts -/

/-- How many cells square brackets have collected. -/
def Layout.cells (l : Layout) : Nat := l.rows * l.cols?.getD 0 + l.current

/-- Rows have a width, and cells come with separators. -/
structure Layout.Sound (l : Layout) : Prop where
  rows : l.cols? = none → l.rows = 0
  cells : l.hasSeparator = false → l.cells = 0

theorem Layout.sound_empty : Layout.empty.Sound := ⟨fun _ => rfl, fun _ => rfl⟩

/-- The cells of the innermost brackets. -/
def cellsOf : List Frame → Nat
  | [] => 0
  | frame :: _ => frame.layout.cells

namespace State
variable {s s' : State} {t : Token} {ts us : List Token} {frame : Frame} {outer : List Frame}
  {endsRow : Bool}

theorem cells_endCell (sound : frame.layout.Sound)
    (ended : s.endCell frame outer endsRow = .ok s') :
    ∃ layout : Layout, layout.Sound ∧ layout.cells = frame.layout.cells + 1
      ∧ (endsRow = true → layout.current = 0)
      ∧ s' = ⟨s.level.flush, { frame with layout } :: outer, false, false, s.assignment⟩ := by
  obtain ⟨-, fits, rfl⟩ := endCell_eq_ok_iff.1 ended
  refine ⟨frame.layout.next endsRow, ?_, ?_, fun ends => by simp [Layout.next, ends], rfl⟩
  · cases endsRow with
    | true => exact ⟨by simp [Layout.next], by simp [Layout.next]⟩
    | false => exact ⟨sound.rows, by simp [Layout.next]⟩
  · cases endsRow with
    | false => rfl
    | true =>
      cases known : frame.layout.cols? with
      | none => simp [Layout.next, Layout.cells, known, sound.rows known]
      | some cols =>
        obtain rfl := fits rfl cols known
        simp [Layout.next, Layout.cells, known, Nat.succ_mul, Nat.add_assoc]

/-! ### Balances -/

/-- What the levels around open brackets leave, with `e` values too many in all. -/
def Suspended : List Frame → Nat → Prop
  | [], e => e = 0
  | frame :: outer, e => frame.layout.Sound ∧ ∃ operand x y,
      frame.outer.Leaves (cellsOf outer) operand x ∧ Suspended outer y ∧ e = x + y

/-- The steps so far find their operands, with `e` values too many in all. -/
def Balanced (s : State) (e : Nat) : Prop :=
  ∃ operand x y, s.level.Leaves (cellsOf s.frames) operand x
    ∧ (s.afterOperand = true → operand = true) ∧ Suspended s.frames y ∧ e = x + y

/-- No operator waits for an operand that has not come. -/
def settled (s : State) : Bool := s.afterOperand || s.level.waiting.isEmpty

/-- A token that is to stand behind an operand does so. -/
def supplies (s : State) (t : Token) : Bool :=
  match t.lexeme with
  | .operator op => s.afterOperand || op == .add || op == .sub
  | .conversion _ => s.afterOperand
  | .closing _ => s.settled
  | _ => true

variable {e : Nat}

theorem balanced_initial (assignment : Option Step) :
    Balanced { initial with assignment } 0 :=
  ⟨false, 0, 0, Level.leaves_empty, nofun, rfl, rfl⟩

theorem leaves_beginOperand {cells x : Nat} {operand : Bool} (h : s.level.Leaves cells operand x)
    (read : s.afterOperand = true → operand = true) :
    ∃ operand', s.beginOperand.level.Leaves cells operand' x := by
  unfold beginOperand
  split
  · next joined =>
    obtain rfl := read (Bool.and_eq_true_iff.1 joined).1
    exact ⟨false, h.wait rfl⟩
  · exact ⟨operand, h⟩

theorem Balanced.endCell (h : s.Balanced e) (frames : s.frames = frame :: outer)
    (ended : s.endCell frame outer endsRow = .ok s') :
    s'.Balanced e ∧ ∃ layout : Layout, layout.Sound ∧ (endsRow = true → layout.current = 0)
      ∧ s' = ⟨s.level.flush, { frame with layout } :: outer, false, false, s.assignment⟩ := by
  obtain ⟨operand, x, y, leaves, read, suspended, rfl⟩ := h
  rw [frames] at leaves suspended
  obtain ⟨sound, around⟩ := suspended
  obtain ⟨layout, sound', cells, last, rfl⟩ := cells_endCell sound ended
  obtain rfl := read (afterOperand_endCell ended).1
  have flushed := leaves.flush (.inl rfl)
  refine ⟨⟨false, x, y, ⟨?_, ?_⟩, nofun, ⟨sound', around⟩, rfl⟩, layout, sound', last, rfl⟩
  · have has := flushed.has
    change Level.Has _ (layout.cells + 0 + x)
    rwa [cells]
  · intro _ _ none
    change layout.cells = 0 at none
    omega

/-- Where no operator waits, the steps of a level leave what the balance says. -/
theorem Balanced.flush (h : s.Balanced e) (settled : s.settled = true) :
    ∃ operand x y, s.level.flush.Leaves (cellsOf s.frames) operand x ∧ Suspended s.frames y
      ∧ e = x + y := by
  obtain ⟨operand, x, y, leaves, read, suspended, rfl⟩ := h
  refine ⟨operand, x, y, leaves.flush ?_, suspended, rfl⟩
  rcases Bool.or_eq_true_iff.1 settled with after | waiting
  · exact .inl (read after)
  · exact .inr (List.isEmpty_iff.1 waiting)

theorem Balanced.closeGroup (h : s.Balanced e) (frames : s.frames = frame :: outer)
    (group : frame.layout.hasSeparator = false) (settled : s.settled = true) :
    ∃ e', e ≤ e' ∧ (s.closeGroup frame outer).Balanced e' := by
  obtain ⟨operand, x, y, flushed, suspended, rfl⟩ := h.flush settled
  rw [frames] at flushed suspended
  obtain ⟨sound, operand', x', y', around, further, rfl⟩ := suspended
  rw [show cellsOf (frame :: outer) = 0 from sound.cells group] at flushed
  have height : heightAfter? 0 s.level.flush.output = some (0 + operand.toNat + x) := flushed.has
  unfold State.closeGroup
  dsimp only
  split
  · next none_ =>
    rw [List.isEmpty_iff.1 none_] at height ⊢
    have zero := Option.some.inj height
    refine ⟨x' + y', by omega, operand', x', y', ?_, nofun, further, rfl⟩
    rwa [List.append_nil]
  · next some_ =>
    obtain rfl : operand = true := by
      by_contra unread
      exact some_ (List.isEmpty_iff.2 (flushed.empty (eq_false_of_ne_true unread) rfl rfl))
    have more : heightAfter? 0 s.level.flush.output = some (x + 1) := by
      rw [height, Bool.toNat_true]
      congr 1
      omega
    exact ⟨operand'.toNat + x' + x + y', by omega, true, _, y', around.append more, fun _ => rfl,
      further, rfl⟩

/-- A matrix takes as many values as it has cells, and leaves one. Further values in its brackets
stay behind. -/
theorem Balanced.closeMatrix (h : s.Balanced e) (frames : s.frames = frame :: outer)
    (closed : s.closeMatrix frame outer = .ok s') :
    ∃ rows cols more e',
      s'.level.output = frame.outer.output ++ s.level.flush.output
        ++ [⟨.matrix rows cols, some frame.start, none⟩]
      ∧ heightAfter? 0 s.level.flush.output = some (rows * cols + more)
      ∧ s'.Balanced e' ∧ e ≤ e' ∧ more ≤ e' := by
  obtain ⟨ended, end_, closed⟩ := bind_eq_ok closed
  obtain ⟨balanced, layout, -, last, rfl⟩ := h.endCell frames end_
  obtain ⟨operand, x, y, leaves, -, suspended, rfl⟩ := balanced
  obtain rfl := Except.ok.inj closed
  obtain ⟨-, operand', x', y', around, further, rfl⟩ := suspended
  let rows := layout.rows
  let cols := layout.cols?.getD 0
  have cells : cellsOf ({ frame with layout } :: outer) = rows * cols := by
    rw [cellsOf, Layout.cells, last rfl, Nat.add_zero]
  have inner : heightAfter? 0 s.level.flush.output = some (rows * cols + (operand.toNat + x)) := by
    have has := leaves.has
    rwa [cells, Nat.add_assoc] at has
  have whole : heightAfter? 0 (s.level.flush.output
      ++ [⟨.matrix rows cols, some frame.start, none⟩]) = some (operand.toNat + x + 1) := by
    have after := heightAfter?_concat (s := ⟨.matrix rows cols, some frame.start, none⟩) inner
      Action.noConfusion (Nat.le_add_right _ _)
    rwa [show Action.arity (.matrix rows cols) = rows * cols from rfl,
      Nat.add_sub_cancel_left] at after
  refine ⟨rows, cols, operand.toNat + x, operand'.toNat + x' + (operand.toNat + x) + y', rfl,
    inner, ⟨true, _, y', ?_, fun _ => rfl, further, rfl⟩, by omega, by omega⟩
  have appended := around.append whole
  rwa [← List.append_assoc] at appended

theorem Balanced.close {b : Bracket} (h : s.Balanced e) (settled : s.settled = true)
    (closed : s.close b = .ok s') : ∃ e', e ≤ e' ∧ s'.Balanced e' := by
  obtain ⟨frame, outer, frames, -, ⟨-, closed⟩ | ⟨group, rfl⟩⟩ := close_eq_ok closed
  · obtain ⟨_, _, _, e', -, -, balanced, grows, -⟩ := h.closeMatrix frames closed
    exact ⟨e', grows, balanced⟩
  · exact h.closeGroup frames group settled

theorem Balanced.separate (h : s.Balanced e) (separated : s.separate endsRow = .ok s') :
    s'.Balanced e := by
  rcases separate_eq_ok separated with ⟨-, rfl⟩ | ⟨frame, outer, frames, -, ended⟩
  · exact h
  · exact (h.endCell frames ended).1

/-- Only an equals sign takes away values that are too many, and it begins anew. -/
theorem Balanced.take (h : s.Balanced e) (supplied : s.supplies t = true)
    (taken : s.take t = .ok s') : ∃ e', (t.lexeme ≠ .assign → e ≤ e') ∧ s'.Balanced e' := by
  suffices goesOn : t.lexeme ≠ .assign → ∃ e', e ≤ e' ∧ s'.Balanced e' by
    by_cases assigns : t.lexeme = .assign
    · rw [State.take, assigns] at taken
      obtain rfl := Except.ok.inj taken
      exact ⟨0, fun other => absurd assigns other, balanced_initial _⟩
    · obtain ⟨e', grows, balanced⟩ := goesOn assigns
      exact ⟨e', fun _ => grows, balanced⟩
  intro other
  unfold supplies at supplied
  unfold State.take at taken
  cases lexeme : t.lexeme with
  | text u =>
    rw [lexeme] at taken
    obtain rfl := Except.ok.inj taken
    refine ⟨e, Nat.le_refl e, ?_⟩
    split <;> exact h
  | operand o =>
    rw [lexeme] at taken
    obtain rfl := Except.ok.inj taken
    obtain ⟨operand, x, y, leaves, read, suspended, rfl⟩ := h
    obtain ⟨operand', begun⟩ := leaves_beginOperand leaves read
    have pushed : heightAfter? 0 [⟨.push o, some t.start, some t.stop⟩] = some (0 + 1) := rfl
    have next := begun.append pushed
    rw [← frames_beginOperand] at next suspended
    exact ⟨_, by omega, true, _, y, next, fun _ => rfl, suspended, rfl⟩
  | unit u =>
    rw [lexeme] at taken
    obtain rfl := Except.ok.inj taken
    refine ⟨e, Nat.le_refl e, ?_⟩
    split
    · next joined =>
      obtain ⟨operand, x, y, leaves, read, suspended, rfl⟩ := h
      obtain rfl := read (Bool.and_eq_true_iff.1 joined).1
      exact ⟨true, x, y, leaves.emit Action.noConfusion rfl, read, suspended, rfl⟩
    · exact h
  | conversion u =>
    rw [lexeme] at taken supplied
    obtain rfl := Except.ok.inj taken
    obtain ⟨operand, x, y, leaves, read, suspended, rfl⟩ := h
    obtain rfl := read supplied
    exact ⟨_, Nat.le_refl _, true, x, y, (leaves.flush (.inl rfl)).emit Action.noConfusion rfl,
      fun _ => rfl, suspended, rfl⟩
  | opening b =>
    rw [lexeme] at taken
    obtain rfl := Except.ok.inj taken
    obtain ⟨operand, x, y, leaves, read, suspended, rfl⟩ := h
    obtain ⟨operand', begun⟩ := leaves_beginOperand leaves read
    rw [← frames_beginOperand] at begun suspended
    exact ⟨_, Nat.le_refl _, false, 0, x + y, Level.leaves_empty, Bool.noConfusion,
      ⟨Layout.sound_empty, operand', x, y, begun, suspended, rfl⟩, (Nat.zero_add _).symm⟩
  | closing b =>
    rw [lexeme] at taken supplied
    exact h.close supplied taken
  | comma =>
    rw [lexeme] at taken
    exact ⟨e, Nat.le_refl e, h.separate taken⟩
  | semicolon =>
    rw [lexeme] at taken
    exact ⟨e, Nat.le_refl e, h.separate taken⟩
  | assign => exact absurd lexeme other
  | operator op =>
    rw [lexeme] at taken supplied
    obtain rfl := Except.ok.inj taken
    obtain ⟨operand, x, y, leaves, read, suspended, rfl⟩ := h
    refine ⟨_, Nat.le_refl _, ?_⟩
    split
    · next after =>
      obtain rfl := read after
      exact ⟨false, x, y, leaves.wait rfl, Bool.noConfusion, suspended, rfl⟩
    · next awaits =>
      split
      · exact ⟨operand, x, y, leaves.minus rfl, read, suspended, rfl⟩
      · exact ⟨operand, x, y, leaves, read, suspended, rfl⟩
      · next notSub notAdd =>
        have signs : op = .add ∨ op = .sub := by simpa [awaits] using supplied
        exact (signs.elim notAdd notSub).elim

/-- Before the end, tokens that are to stand behind an operand do so, and at the end no operator
waits. -/
def isSupplied : State → List Token → Bool
  | s, [] => s.settled
  | s, t :: ts => s.supplies t && match s.take t with
      | .ok s' => isSupplied s' ts
      | .error _ => false

theorem isSupplied_cons : isSupplied s (t :: ts) = true ↔
    s.supplies t = true ∧ ∃ s', s.take t = .ok s' ∧ isSupplied s' ts = true := by
  rw [isSupplied, Bool.and_eq_true]
  cases s.take t <;> simp

/-- Values that are too many stay to the end. -/
theorem Balanced.takeAll (h : s.Balanced e) (supplied : isSupplied s (ts ++ us) = true) :
    ∃ s' e', takeAll s ts = .ok s' ∧ ((∀ t ∈ ts, t.lexeme ≠ .assign) → e ≤ e') ∧ s'.Balanced e'
      ∧ isSupplied s' us = true := by
  induction ts generalizing s e with
  | nil => exact ⟨s, e, rfl, fun _ => Nat.le_refl e, h, supplied⟩
  | cons t ts ih =>
    obtain ⟨here, next, taken, rest⟩ := isSupplied_cons.1 supplied
    obtain ⟨e', first, balanced⟩ := h.take here taken
    obtain ⟨s', e'', takenRest, later, balanced', last⟩ := ih balanced rest
    refine ⟨s', e'', by rw [takeAll_cons_of_eq taken, takenRest], fun others => ?_, balanced', last⟩
    obtain ⟨other, others⟩ := List.forall_mem_cons.1 others
    exact (first other).trans (later others)

/-- No value is too many if just one is left. -/
theorem Balanced.eq_zero (h : s.Balanced e) (settled : s.settled = true) (frames : s.frames = [])
    (one : heightAfter? 0 s.level.flush.output = some 1) : e = 0 := by
  obtain ⟨operand, x, y, leaves, suspended, rfl⟩ := h.flush settled
  rw [frames] at leaves suspended
  have height : some (0 + operand.toNat + x) = some 1 := leaves.has.symm.trans one
  have total := Option.some.inj height
  obtain rfl : y = 0 := suspended
  cases operand with
  | true =>
    rw [Bool.toNat_true] at total
    omega
  | false =>
    rw [leaves.empty rfl rfl rfl] at one
    exact nomatch one

end State
end CalcSheet.Postfix
