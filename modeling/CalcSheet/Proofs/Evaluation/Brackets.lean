import CalcSheet.Proofs.Evaluation.Assignments
import CalcSheet.Proofs.Evaluation.Containment
import CalcSheet.Proofs.Postfix.Supply

/-!
# Closed brackets

The steps of a group, or of one cell of a matrix, find their operands among their own values, if the
operators and conversions in it do not stand in the place of an operand. In a line with a result
there is then one value to each group and each cell, and a matrix takes the values of its own cells.
-/
namespace CalcSheet

namespace Postfix

variable {tokens inner ts us : List Token} {s s' z base : State} {t : Token}

/-! ### The tokens inside -/

namespace State

theorem settled_within (s base : State) : (s.within base).settled = s.settled := by
  cases frames : s.frames <;> simp [settled, within, innermost, frames, Level.behind]

theorem supplies_within (s base : State) (t : Token) :
    (s.within base).supplies t = s.supplies t := by
  unfold supplies
  rw [settled_within]
  rfl

/-- Tokens that stand as they should among brackets do so by themselves, too. -/
theorem isSupplied_of_within (some_ : base.frames ≠ [])
    (kept : Keeps base.frames (s.within base) ts)
    (supplied : isSupplied (s.within base) (ts ++ us) = true)
    (ends : ∀ m, takeAll (s.within base) ts = .ok m → m.settled = true) :
    isSupplied s ts = true := by
  induction ts generalizing s with
  | nil => exact (settled_within s base).symm.trans (ends _ rfl)
  | cons t ts ih =>
    obtain ⟨here, m, taken, rest⟩ := isSupplied_cons.1 supplied
    obtain ⟨next, takenAlone, rfl, -⟩ := take_within some_ (kept.2 m taken).suffix taken
    refine isSupplied_cons.2 ⟨(supplies_within s base t).symm.trans here, next, takenAlone, ?_⟩
    exact ih (kept.2 _ taken) rest fun m reached =>
      ends m (by rw [takeAll_cons_of_eq taken, reached])

end State

/-- Tokens that stand as they should have a balance at each place. -/
theorem exists_balanced (supplied : State.isSupplied .initial (ts ++ us) = true)
    (taken : takeAll .initial ts = .ok s) :
    (∃ e, s.Balanced e) ∧ State.isSupplied s us = true := by
  have start : State.Balanced .initial 0 := State.balanced_initial none
  obtain ⟨s', e, taken', -, balanced, rest⟩ := start.takeAll supplied
  obtain rfl := Except.ok.inj (taken.symm.trans taken')
  exact ⟨⟨e, balanced⟩, rest⟩

/-- If all operators have their operands, the steps do not need a stack. -/
theorem Encloses.exists_heightAfter? (h : Encloses tokens inner s s')
    (supplied : State.isSupplied .initial inner = true) :
    ∃ n, heightAfter? 0 (ofTokens inner) = some n := by
  obtain ⟨alone, taken, frames, none_, -⟩ := h.takeAll_initial
  rw [← List.append_nil inner] at supplied
  obtain ⟨⟨e, balanced⟩, settled⟩ := exists_balanced supplied taken
  obtain ⟨operand, x, y, leaves, -⟩ := balanced.flush settled
  rw [ofTokens_of_takeAll taken frames, none_, Option.toList_none, List.append_nil]
  exact ⟨_, leaves.has⟩

/-! ### Lines of one value -/

/-- The tokens are read without a fault in their brackets, and their steps leave one value. -/
def YieldsOne (tokens : List Token) : Prop :=
  ∃ z, takeAll .initial tokens = .ok z ∧ z.frames = []
    ∧ heightAfter? 0 z.level.flush.output = some 1

/-- Where one value is left in the end, no value is too many at any place behind the equals sign. -/
theorem balance_eq_zero {e : Nat} (h : s.Balanced e)
    (rest : State.isSupplied s us = true) (taken : takeAll .initial ts = .ok s)
    (one : YieldsOne (ts ++ us)) (others : ∀ t ∈ us, t.lexeme ≠ .assign) : e = 0 := by
  rw [← List.append_nil us] at rest
  obtain ⟨z, e', takenRest, grows, last, settled⟩ := h.takeAll rest
  obtain ⟨z', whole, frames, one⟩ := one
  rw [takeAll_append_of_eq taken, takenRest] at whole
  obtain rfl := Except.ok.inj whole
  have zero : e' = 0 := last.eq_zero settled frames one
  exact Nat.le_zero.1 (zero ▸ grows others)

/-- Behind a bracket or a separator there is no equals sign. -/
def AssignsFirst (tokens : List Token) : Prop :=
  ∀ before t after, tokens = before ++ t :: after →
    (t.lexeme = .comma ∨ t.lexeme = .semicolon ∨ (∃ b, t.lexeme = .opening b)
      ∨ ∃ b, t.lexeme = .closing b) →
    ∀ u ∈ t :: after, u.lexeme ≠ .assign

theorem State.comma_or_semicolon_of_separates (separates : s.separates t = true) :
    t.lexeme = .comma ∨ t.lexeme = .semicolon := by
  obtain ⟨sign, -⟩ := Bool.and_eq_true_iff.1 separates
  simpa using sign

namespace Encloses

/-- At both ends of what brackets or separators enclose, no value is too many, and the tokens inside
stand as they should by themselves. -/
theorem balanced (h : Encloses tokens inner s s')
    (supplied : State.isSupplied .initial tokens = true) (one : YieldsOne tokens)
    (first : AssignsFirst tokens) :
    s.Balanced 0 ∧ s'.Balanced 0 ∧ s'.settled = true ∧ State.isSupplied .initial inner = true := by
  obtain ⟨some_, fresh⟩ := h.isFresh
  obtain ⟨before, opener, closer, after, m, m', rfl, taken, opened, begins, closed, ends⟩ :=
    h.placed
  have others : ∀ t ∈ opener :: (inner ++ closer :: after), t.lexeme ≠ .assign := by
    refine first before opener _ rfl ?_
    rcases begins with separates | bracket
    · rcases State.comma_or_semicolon_of_separates separates with comma | semicolon
      · exact .inl comma
      · exact .inr (.inl semicolon)
    · exact .inr (.inr (.inl bracket))
  obtain ⟨-, others⟩ := List.forall_mem_cons.1 others
  have toInner : takeAll .initial (before ++ [opener]) = .ok s := by
    rw [takeAll_append_of_eq taken, takeAll_cons_of_eq opened, takeAll_nil]
  have toCloser : takeAll .initial (before ++ [opener] ++ inner) = .ok s' := by
    rw [takeAll_append_of_eq toInner, h.inside]
  rw [List.append_cons] at supplied one
  obtain ⟨⟨e, balanced⟩, rest⟩ := exists_balanced supplied toInner
  obtain rfl := balance_eq_zero balanced rest toInner one others
  rw [← List.append_assoc] at supplied one
  obtain ⟨⟨e, balanced'⟩, rest'⟩ := exists_balanced supplied toCloser
  obtain rfl := balance_eq_zero balanced' rest' toCloser one (List.forall_mem_append.1 others).2
  have settled : s'.settled = true := by
    rcases ends with separates | ⟨b, lexeme⟩
    · obtain ⟨frame, outer, endsRow, -, ended⟩ := State.endCell_of_separates separates closed
      simp [State.settled, (State.afterOperand_endCell ended).1]
    · have here := (State.isSupplied_cons.1 rest').1
      rwa [State.supplies, lexeme] at here
  refine ⟨balanced, balanced', settled, ?_⟩
  have kept := h.kept
  have inside := h.inside
  rw [fresh] at rest kept inside
  refine State.isSupplied_of_within some_ kept rest fun z reached => ?_
  obtain rfl := Except.ok.inj (inside.symm.trans reached)
  exact settled

/-- In a line of one value, what brackets or separators enclose comes to one value, or to no step at
all. -/
theorem heightAfter?_eq_one (h : Encloses tokens inner s s')
    (supplied : State.isSupplied .initial tokens = true) (one : YieldsOne tokens)
    (first : AssignsFirst tokens) :
    ofTokens inner = [] ∨ heightAfter? 0 (ofTokens inner) = some 1 := by
  obtain ⟨⟨operand, x, y, leaves, -, -, total⟩, balanced', settled, alone⟩ :=
    h.balanced supplied one first
  obtain ⟨operand', x', y', leaves', -, total'⟩ := balanced'.flush settled
  obtain ⟨n, height⟩ := h.exists_heightAfter? alone
  have before := leaves.has
  rw [Level.Has, (State.isFresh_iff.1 h.isFresh).2.1] at before
  have whole : heightAfter? 0 s'.level.flush.output = some _ := leaves'.has
  rw [h.flush_eq, h.same, heightAfter?_append_of_eq before height] at whole
  have sum := Option.some.inj whole
  by_cases none_ : ofTokens inner = []
  · exact .inl none_
  · have pos := heightAfter?_pos height none_
    have most := operand'.toNat_le
    obtain rfl : n = 1 := by
      change _ + 0 + n = _ + 0 at sum
      omega
    exact .inr height

end Encloses

/-- A closing bracket ends a matrix. -/
structure EndsMatrix (tokens : List Token) (s s' : State) (frame : Frame) (outer : List Frame) :
    Prop where
  placed : ∃ before closer after b, tokens = before ++ closer :: after
    ∧ takeAll .initial before = .ok s ∧ closer.lexeme = .closing b ∧ s.take closer = .ok s'
  frames : s.frames = frame :: outer
  separated : frame.layout.hasSeparator = true

/-- In a line of one value, a matrix finds the values of its own cells, and no others, in its
brackets. -/
theorem EndsMatrix.takes_cells {frame : Frame} {outer : List Frame}
    (h : EndsMatrix tokens s s' frame outer) (supplied : State.isSupplied .initial tokens = true)
    (one : YieldsOne tokens) (first : AssignsFirst tokens) :
    ∃ rows cols, s'.level.output = frame.outer.output ++ s.level.flush.output
        ++ [⟨.matrix rows cols, some frame.start, none⟩]
      ∧ heightAfter? 0 s.level.flush.output = some (rows * cols) := by
  obtain ⟨before, closer, after, b, rfl, taken, lexeme, closed⟩ := h.placed
  obtain ⟨-, others⟩ := List.forall_mem_cons.1
    (first before closer after rfl (.inr (.inr (.inr ⟨b, lexeme⟩))))
  have behind : takeAll .initial (before ++ [closer]) = .ok s' := by
    rw [takeAll_append_of_eq taken, takeAll_cons_of_eq closed, takeAll_nil]
  obtain ⟨⟨e, balanced⟩, -⟩ := exists_balanced supplied taken
  rw [List.append_cons] at supplied one
  obtain ⟨-, rest⟩ := exists_balanced supplied behind
  have matrix : s.closeMatrix frame outer = .ok s' := by
    rw [State.take, lexeme] at closed
    simp only [State.close, h.frames, h.separated, ↓reduceIte] at closed
    split at closed
    · cases closed
    · exact closed
  obtain ⟨rows, cols, more, e', emitted, height, balanced', -, most⟩ :=
    balanced.closeMatrix h.frames matrix
  have zero := balance_eq_zero balanced' rest behind one others
  obtain rfl : more = 0 := by omega
  exact ⟨rows, cols, emitted, height⟩

/-- The tokens of a line assign before they calculate. -/
theorem assignsFirst_of_scan {line : Text} {names : List KnownName}
    (scanned : Token.scan line names = .ok tokens) (kept : ts <+: tokens) : AssignsFirst ts := by
  obtain ⟨later, rfl⟩ := kept
  rintro before t after rfl punctuation u mem
  obtain ⟨others, whole, noEquals⟩ := Token.ne_assign_of_scan scanned
  generalize begin_ : (if isTextLine line then [] else _) = lead at whole
  have outside : t ∉ lead := by
    intro inside
    split at begin_
    · exact absurd (begin_ ▸ inside) List.not_mem_nil
    · cases parsed : Assignment.parse? line with
      | none =>
        rw [parsed] at begin_
        exact absurd (begin_ ▸ inside) List.not_mem_nil
      | some a =>
        rw [parsed] at begin_
        obtain rfl : a.tokens = lead := begin_
        have kind := Assignment.lexeme_of_mem_tokens inside
        rcases punctuation with lexeme | lexeme | ⟨b, lexeme⟩ | ⟨b, lexeme⟩ <;>
          simp [lexeme] at kind
  have behind : ∃ gap, others = gap ++ t :: (after ++ later) := by
    rw [List.append_assoc, List.cons_append] at whole
    rcases List.append_eq_append_iff.1 whole with ⟨gap, rfl, here⟩ | ⟨gap, -, here⟩
    · cases gap with
      | nil => exact ⟨[], here.symm⟩
      | cons first gap =>
        obtain rfl := (List.cons.inj here).1
        exact absurd (List.mem_append_right before List.mem_cons_self) outside
    · exact ⟨gap, here⟩
  obtain ⟨gap, rfl⟩ := behind
  refine noEquals u (List.mem_append_right gap ?_)
  rw [← List.cons_append]
  exact List.mem_append_left later mem

/-- What has a result yields one value. -/
theorem yieldsOne_of_ofSteps {env : Environment} {outcome : Outcome}
    (faultless : fault? tokens = none)
    (evaluated : Outcome.ofSteps env (ofTokens tokens) = .ok (some outcome)) :
    YieldsOne tokens := by
  obtain ⟨z, taken, frames⟩ := run_eq_none_iff.1 faultless
  refine ⟨z, taken, frames, ?_⟩
  have final := holds_ne_assign_run tokens
  rw [run_eq_of_takeAll taken] at final
  have calculated : calculation (ofTokens tokens) = z.level.flush.output := by
    rw [ofTokens_of_takeAll taken frames]
    exact calculation_append (final.level.flush isInherited_ne_assign) final.assignment
  obtain ⟨m, ran, result⟩ := Outcome.run_of_ofSteps evaluated
  have height := Machine.heightAfter?_of_run ran
  rw [calculated, result] at height
  exact height

end Postfix

open Postfix

namespace Line

variable {env : Environment} {names : List KnownName} {line : Text} {tokens : List Token}
  {outcome : Outcome}

/-- What a line emits for a group or for a cell of a matrix are the steps of the tokens inside, and
they need no other values than their own, if the operators and conversions inside do not stand in
the place of an operand. If this holds of all tokens that count for the result, then every group and
every cell comes to one value, or to no step at all, and a matrix takes the values of its own cells
and no others. -/
theorem brackets_closed (evaluated : evaluate env names line = .ok (tokens, some outcome)) :
    (∀ inner s s', Encloses tokens inner s s' →
      s'.level.flush.output = s.level.output ++ ofTokens inner
        ∧ (State.isSupplied .initial inner = true → ∃ n, SelfContained (ofTokens inner) n))
    ∧ ∀ kept, kept <+: tokens → ofTokens kept = ofTokens tokens → fault? kept = none →
        State.isSupplied .initial kept = true →
      (∀ inner s s', Encloses kept inner s s' →
        ofTokens inner = [] ∨ SelfContained (ofTokens inner) 1)
      ∧ ∀ s s' frame outer, EndsMatrix kept s s' frame outer →
        ∃ rows cols, s'.level.output = frame.outer.output ++ s.level.flush.output
            ++ [⟨.matrix rows cols, some frame.start, none⟩]
          ∧ SelfContained s.level.flush.output (rows * cols) := by
  obtain ⟨scanned, calculated⟩ := parts_of_evaluate evaluated
  refine ⟨fun inner s s' encloses => ⟨encloses.flush_eq, fun supplied => ?_⟩,
    fun kept before same faultless supplied => ?_⟩
  · obtain ⟨n, height⟩ := encloses.exists_heightAfter? supplied
    exact ⟨n, selfContained_of_heightAfter? height⟩
  · have first := assignsFirst_of_scan scanned before
    rw [← same] at calculated
    have one := yieldsOne_of_ofSteps faultless calculated
    refine ⟨fun inner s s' encloses => ?_, fun s s' frame outer ends => ?_⟩
    · have height := encloses.heightAfter?_eq_one supplied one first
      exact height.imp_right selfContained_of_heightAfter?
    · obtain ⟨rows, cols, emitted, height⟩ := ends.takes_cells supplied one first
      exact ⟨rows, cols, emitted, selfContained_of_heightAfter? height⟩

/-- Of `2*[3,4]`, the first cell comes to one value, and the matrix takes two. -/
theorem brackets_closed_product :
    let line := ['2', '*', '[', '3', ',', '4', ']']
    let two : Step := ⟨.push (.number (.ofNat 2)), some 0, some 1⟩
    let three : Step := ⟨.push (.number (.ofNat 3)), some 3, some 4⟩
    let four : Step := ⟨.push (.number (.ofNat 4)), some 5, some 6⟩
    (∃ tokens outcome, evaluate ⟨[], []⟩ [] line = .ok (tokens, some outcome)
      ∧ ofTokens tokens = [two, three, four, ⟨.matrix 1 2, some 2, none⟩,
        ⟨.operate .mul, some 1, some 2⟩])
    ∧ SelfContained [three] 1 ∧ SelfContained [three, four] 2 := by
  intro line two three four
  let before : List Token :=
    [⟨.operand (.number (.ofNat 2)), 0, 1⟩, ⟨.operator .mul, 1, 2⟩]
  let cell : List Token := [⟨.operand (.number (.ofNat 3)), 3, 4⟩]
  let rest : List Token :=
    [⟨.comma, 4, 5⟩, ⟨.operand (.number (.ofNat 4)), 5, 6⟩, ⟨.closing .square, 6, 7⟩]
  let tokens := before ++ ⟨.opening .square, 2, 3⟩ :: (cell ++ rest)
  obtain ⟨⟨_, outcome?⟩, evaluated, rfl, some_⟩ : ∃ r, evaluate ⟨[], []⟩ [] line = .ok r
      ∧ r.1 = tokens ∧ r.2.isSome := by decide +kernel
  obtain ⟨outcome, rfl⟩ := Option.isSome_iff_exists.1 some_
  have steps : ofTokens tokens = [two, three, four, ⟨.matrix 1 2, some 2, none⟩,
      ⟨.operate .mul, some 1, some 2⟩] := by decide +kernel
  obtain ⟨cells, matrices⟩ := (brackets_closed evaluated).2 tokens List.prefix_rfl rfl
    (by decide +kernel) (by decide +kernel)
  let around : Level := ⟨[two], [⟨.operator .mul, some 1, some 2⟩]⟩
  let s : State := ⟨.empty, [⟨.square, 2, around, .empty⟩], false, false, none⟩
  let s' : State := ⟨⟨[three], []⟩, s.frames, true, false, none⟩
  have encloses : Encloses tokens cell s s' :=
    { placed := ⟨before, _, _, _, _, _, rfl, rfl, rfl, .inr ⟨.square, rfl⟩, rfl, .inl rfl⟩
      inside := rfl
      kept := ⟨List.suffix_rfl, fun _ taken => Except.ok.inj taken ▸ List.suffix_rfl⟩
      same := rfl }
  let frame : Frame := ⟨.square, 2, around, ⟨0, none, 1, true⟩⟩
  let filled : State := ⟨⟨[three, four], []⟩, [frame], true, false, none⟩
  have ends : EndsMatrix tokens filled _ frame [] :=
    { placed := ⟨before ++ ⟨.opening .square, 2, 3⟩ :: (cell ++ rest.take 2), _, [], .square, rfl,
        rfl, rfl, rfl⟩
      frames := rfl
      separated := rfl }
  refine ⟨⟨tokens, outcome, evaluated, steps⟩, (cells cell s s' encloses).resolve_left nofun, ?_⟩
  obtain ⟨rows, cols, emitted, contained⟩ := matrices _ _ _ _ ends
  have shape : some (Action.matrix 1 2) = some (.matrix rows cols) :=
    congrArg (fun steps => steps.getLast?.map (·.action)) emitted
  obtain ⟨rfl, rfl⟩ := Action.matrix.inj (Option.some.inj shape)
  exact contained

/-- In `1 foo (*2)` the operator inside the brackets takes the operand outside of them. -/
theorem not_forall_brackets_closed :
    ¬ ∀ (line : Text) (tokens inner : List Token) (outcome : Outcome) (s s' : State),
      evaluate ⟨[], []⟩ [] line = .ok (tokens, some outcome) → Encloses tokens inner s s' →
        ∃ n, SelfContained (ofTokens inner) n := by
  intro closed
  let one : Step := ⟨.push (.number (.ofNat 1)), some 0, some 1⟩
  let two : Step := ⟨.push (.number (.ofNat 2)), some 8, some 9⟩
  let times : Step := ⟨.operate .mul, some 7, some 8⟩
  let before : List Token :=
    [⟨.operand (.number (.ofNat 1)), 0, 1⟩, ⟨.text [' '], 1, 2⟩, ⟨.text ['f', 'o', 'o'], 2, 5⟩,
      ⟨.text [' '], 5, 6⟩]
  let group : List Token := [⟨.operator .mul, 7, 8⟩, ⟨.operand (.number (.ofNat 2)), 8, 9⟩]
  let tokens := before ++ ⟨.opening .round, 6, 7⟩ :: (group ++ [⟨.closing .round, 9, 10⟩])
  obtain ⟨⟨_, outcome?⟩, evaluated, rfl, some_⟩ : ∃ r,
      evaluate ⟨[], []⟩ [] ['1', ' ', 'f', 'o', 'o', ' ', '(', '*', '2', ')'] = .ok r
        ∧ r.1 = tokens ∧ r.2.isSome := by decide +kernel
  obtain ⟨outcome, rfl⟩ := Option.isSome_iff_exists.1 some_
  let s : State := ⟨.empty, [⟨.round, 6, ⟨[one], []⟩, .empty⟩], false, false, none⟩
  have encloses : Encloses tokens group s
      ⟨⟨[two], [⟨.operator .mul, some 7, some 8⟩]⟩, s.frames, true, false, none⟩ :=
    { placed := ⟨before, _, _, _, _, _, rfl, rfl, rfl, .inr ⟨.round, rfl⟩, rfl, .inr ⟨.round, rfl⟩⟩
      inside := rfl
      kept := ⟨List.suffix_rfl, fun _ taken => Except.ok.inj taken ▸
        ⟨List.suffix_rfl, fun _ taken => Except.ok.inj taken ▸ List.suffix_rfl⟩⟩
      same := rfl }
  obtain ⟨n, contained⟩ := closed _ _ _ _ _ _ evaluated encloses
  have pushed : Machine.initial.emptied.run ⟨[], []⟩ [two]
      = .ok ⟨[.number (.ofDecimal (.ofNat 2))], false, false⟩ := rfl
  have steps : ofTokens group = [two] ++ times :: [] := rfl
  have found : 2 ≤ 1 := contained.supplied steps pushed
  exact absurd found (by decide)

end Line
end CalcSheet
