import CalcSheet.Proofs.Postfix.Enclosed
import CalcSheet.Proofs.Postfix.SharedStacks

/-!
# Shared stacks do not fail

On the shared stacks of a line, the opening brackets among the operators are those of the open
frames, whose positions are within the stacks, and everything else has a rank. So nothing is popped
from an empty stack and every rank is found. What comes out is what the nested levels yield.
-/
namespace CalcSheet.Postfix

namespace State
variable {s s' : State} {t : Token}

/-! ### Runs -/

theorem plain_initial : State.initial.Plain := List.forall_mem_nil _

theorem Plain.take (plain : s.Plain) (taken : s.take t = .ok s') : s'.Plain := by
  cases leadsTo_of_take taken with
  | inside frames =>
    rw [Plain, frames]
    exact plain
  | opening => exact List.forall_mem_cons.2 ⟨nofun, by rwa [frames_beginOperand]⟩
  | closing _ closed =>
    obtain ⟨frame, frames⟩ := frames_close closed
    rw [Plain, frames] at plain
    exact (List.forall_mem_cons.1 plain).2
  | separator _ frames square ended =>
    obtain ⟨-, -, rfl⟩ := endCell_eq_ok_iff.1 ended
    rw [Plain, frames] at plain
    exact List.forall_mem_cons.2 ⟨fun _ => square, (List.forall_mem_cons.1 plain).2⟩
  | assignment => exact plain_initial

/-- What is around the outermost bracket comes first on shared stacks. -/
theorem around_getLast? {frames : List Frame} {frame : Frame}
    (last : frames.getLast? = some frame) :
    (opened frames).getLast? = some (.ofFrame frame [])
      ∧ (∃ steps, finishedAround frames = frame.outer.output ++ steps)
      ∧ ∃ items, pendingAround frames = items ++ frame.outer.waiting.map .ofWaiting := by
  induction frames with
  | nil => cases last
  | cons first outer ih =>
    cases outer with
    | nil =>
      obtain rfl := Option.some.inj last
      exact ⟨rfl, ⟨[], by simp [finishedAround]⟩, ⟨[_], by simp [pendingAround]; rfl⟩⟩
    | cons second outer =>
      obtain ⟨innermost, ⟨steps, finished⟩, items, pending⟩ := ih (by simpa using last)
      refine ⟨by simpa [opened] using innermost, ⟨steps ++ first.outer.output, ?_⟩, ?_⟩
      · rw [finishedAround, finished, List.append_assoc]
      · rw [pendingAround, pending, ← List.append_assoc, ← List.cons_append]
        exact ⟨_, rfl⟩

/-- Cut back to the outermost bracket, shared stacks are those of the level around it. -/
theorem truncate_shared (s : State) : s.shared.truncate = s.truncated.shared := by
  unfold Stacks.truncate truncated outermost
  cases last : s.frames.getLast? with
  | none =>
    have none_ : s.frames = [] := List.getLast?_eq_none_iff.1 last
    simp [shared, none_, opened]
  | some frame =>
    obtain ⟨outermost, ⟨steps, finished⟩, items, pending⟩ := around_getLast? last
    have cut (front back : List Item) : (front ++ back).rtake back.length = back := by
      rw [List.rtake, List.length_append, Nat.add_sub_cancel, List.drop_left]
    have below := cut (s.level.waiting.map .ofWaiting ++ items)
      (frame.outer.waiting.map .ofWaiting)
    rw [List.length_map, List.append_assoc, ← pending] at below
    simp [shared, outermost, finished, below, Opened.ofFrame, finishedAround, pendingAround, opened]

theorem truncated_eq_self (closed : s.frames = []) : s.truncated = s := by
  obtain ⟨level, frames, after, gap, assignment⟩ := s
  obtain rfl : frames = [] := closed
  rfl

/-- A fault in the brackets leaves the level around them, on shared stacks as well. -/
theorem recover_run (plain : s.Plain) (ts : List Token) :
    Stacks.recover (Stacks.run s.shared ts) = .ok (Postfix.run s ts).1.truncated.shared := by
  induction ts generalizing s with
  | nil =>
    rw [Stacks.run]
    cases frames : s.frames with
    | nil =>
      have closed : s.shared.frames.isEmpty = true := by rw [shared, frames]; rfl
      rw [if_pos closed, Postfix.run, truncated_eq_self frames]
      rfl
    | cons frame outer =>
      rw [if_neg (by simp [shared, frames, opened])]
      exact congrArg Except.ok s.truncate_shared
  | cons t ts ih =>
    have agrees := agrees_take plain t
    rw [Stacks.run, Postfix.run]
    cases taken : s.take t with
    | error fault =>
      rw [taken] at agrees
      obtain ⟨left, outside, failed⟩ := agrees
      rw [failed]
      exact congrArg Except.ok (left.truncate_shared.trans (congrArg shared outside))
    | ok next =>
      rw [taken] at agrees
      rw [show s.shared.take t = .ok next.shared from agrees]
      exact ih (plain.take taken)

/-- Whatever happens on shared stacks, they are those of some state. -/
theorem exists_shared_eq (plain : s.Plain) (ts : List Token) :
    ∀ x ∈ Stacks.trace s.shared ts, ∃ r : State, r.shared = x := by
  induction ts generalizing s with
  | nil => simp [Stacks.trace, truncate_shared]
  | cons t ts ih =>
    have agrees := agrees_take plain t
    rw [Stacks.trace]
    refine List.forall_mem_cons.2 ⟨⟨s, rfl⟩, ?_⟩
    cases taken : s.take t with
    | error fault =>
      rw [taken] at agrees
      obtain ⟨left, outside, failed⟩ := agrees
      simp [failed, truncate_shared]
    | ok next =>
      rw [taken] at agrees
      rw [show s.shared.take t = .ok next.shared from agrees]
      exact ih (plain.take taken)

end State

/-! ### Safety -/

/-- The opening brackets on the stack of operators are those of the frames, whose positions are
within the stacks, and what stands between the brackets has a rank. -/
structure Stacks.Sound (s : Stacks) : Prop where
  openings : s.operators.filter (·.isOpening) = s.frames.map Opened.item
  finished : ∀ frame ∈ s.frames, frame.finished ≤ s.output.length
  pending : ∀ frame ∈ s.frames, frame.pending < s.operators.length
  ranked : ∀ item ∈ s.operators, item.isOpening = false → ∃ rank, item.rank? = some rank

theorem filter_isOpening_map (ws : List Waiting) :
    (ws.map Item.ofWaiting).filter (·.isOpening) = [] := by simp

theorem filter_isOpening_pendingAround (frames : List Frame) :
    (pendingAround frames).filter (·.isOpening) = (opened frames).map Opened.item := by
  induction frames with
  | nil => rfl
  | cons frame outer ih =>
    rw [pendingAround, List.filter_cons_of_pos rfl, List.filter_append, filter_isOpening_map,
      List.nil_append, ih]
    rfl

theorem finished_le_of_mem_opened (frames : List Frame) :
    ∀ frame ∈ opened frames, frame.finished ≤ (finishedAround frames).length := by
  induction frames with
  | nil => exact List.forall_mem_nil _
  | cons frame outer ih =>
    refine List.forall_mem_cons.2 ⟨Nat.le_refl _, fun further mem => ?_⟩
    have := ih further mem
    rw [finishedAround, List.length_append]
    omega

theorem pending_lt_of_mem_opened (frames : List Frame) :
    ∀ frame ∈ opened frames, frame.pending < (pendingAround frames).length := by
  induction frames with
  | nil => exact List.forall_mem_nil _
  | cons frame outer ih =>
    refine List.forall_mem_cons.2 ⟨Nat.lt_succ_self _, fun further mem => ?_⟩
    have := ih further mem
    rw [pendingAround, List.length_cons, List.length_append]
    omega

theorem ranked_pendingAround (frames : List Frame) :
    ∀ item ∈ pendingAround frames, item.isOpening = false → ∃ rank, item.rank? = some rank := by
  induction frames with
  | nil => exact List.forall_mem_nil _
  | cons frame outer ih =>
    refine List.forall_mem_cons.2 ⟨nofun, List.forall_mem_append.2 ⟨?_, ih⟩⟩
    exact List.forall_mem_map.2 fun w _ _ => ⟨_, Item.rank?_ofWaiting w⟩

theorem sound_shared (s : State) : s.shared.Sound where
  openings := by
    change (s.level.waiting.map Item.ofWaiting ++ pendingAround s.frames).filter _ = _
    rw [List.filter_append, filter_isOpening_map, filter_isOpening_pendingAround]
    rfl
  finished frame mem := by
    have := finished_le_of_mem_opened s.frames frame mem
    simp only [State.shared, List.length_map, List.length_append]
    omega
  pending frame mem := by
    have := pending_lt_of_mem_opened s.frames frame mem
    simp only [State.shared, List.length_append]
    omega
  ranked := by
    refine List.forall_mem_append.2 ⟨?_, ranked_pendingAround s.frames⟩
    exact List.forall_mem_map.2 fun w _ _ => ⟨_, Item.rank?_ofWaiting w⟩

/-- What can be evaluated: operands, operators, units, conversions, and matrices of some size. -/
def Mark.isStep : Mark → Bool
  | .lexeme (.operand _) | .lexeme (.operator _) | .lexeme (.unit _) | .lexeme (.conversion _)
  | .minus => true
  | .matrix rows cols => 0 < rows && 0 < cols
  | _ => false

theorem isInherited_isStep : IsInherited fun a => (Mark.ofAction a).isStep = true where
  operate _ := rfl
  negate := rfl
  matrix rows cols some_ others := by simp [Mark.ofAction, Mark.isStep, some_, others]

theorem reduce_eq_ok (tokens : List Token) :
    Stacks.reduce tokens = .ok ((ofTokens tokens).map .ofStep) := by
  have ran : Stacks.recover (Stacks.run .initial tokens) = _ :=
    State.recover_run State.plain_initial tokens
  have waiting (ws : List Waiting) :
      (ws.map Item.ofWaiting).filter (!·.isOpening) = ws.map Item.ofWaiting := by simp
  rw [Stacks.reduce, ran]
  simp only [bind, Except.bind, pure, Except.pure, State.shared, State.truncated, finishedAround,
    pendingAround, List.nil_append, List.append_nil, waiting]
  cases assignment : (Postfix.run .initial tokens).1.assignment <;>
    simp [ofTokens, Level.flush, Item.ofWaiting, Function.comp_def, assignment]

/-- On shared stacks, every line is reduced without a failure. At every token the stacks are sound,
and the items that come out are the steps that the nested levels yield. -/
theorem Stacks.reduce_safe (tokens : List Token) :
    (∀ s ∈ trace .initial tokens, s.Sound)
    ∧ reduce tokens = .ok ((ofTokens tokens).map .ofStep)
    ∧ ∃ items, ∃ last : Option Item, reduce tokens = .ok (items ++ last.toList)
      ∧ (∀ item ∈ items, item.mark.isStep = true)
      ∧ ∀ item ∈ last, item.mark = .lexeme .assign := by
  refine ⟨fun s visited => ?_, reduce_eq_ok tokens, ?_⟩
  · obtain ⟨r, rfl⟩ := State.exists_shared_eq State.plain_initial tokens s visited
    exact sound_shared r
  · have own : ∀ t ∈ tokens, ∀ a ∈ ownAction? t.lexeme, (Mark.ofAction a).isStep = true := by
      intro t _ a own
      cases lexeme : t.lexeme <;> rw [lexeme] at own <;> cases own <;> rfl
    obtain ⟨steps, last, whole, all, assigns⟩ := ofTokens_holds isInherited_isStep own
    refine ⟨steps.map .ofStep, last.map .ofStep, ?_, List.forall_mem_map.2 all, ?_⟩
    · rw [reduce_eq_ok, whole, List.map_append]
      cases last <;> rfl
    · rintro _ mem
      obtain ⟨step, known, rfl⟩ := Option.map_eq_some_iff.1 mem
      simp [Item.ofStep, assigns step known, Mark.ofAction]

/-- Stacks that are not sound can fail: without the opening bracket of a frame, a closing bracket
pops from an empty stack. -/
example : Stacks.close ⟨[], [], [⟨.round, 0, 0, 0, .empty⟩], false, false, none⟩ .round
    = .error .emptyStack := rfl

end CalcSheet.Postfix
