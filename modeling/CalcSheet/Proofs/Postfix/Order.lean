import CalcSheet.Proofs.Postfix.Run
import CalcSheet.Proofs.Syntax.Grammar
import Mathlib.Data.List.FinRange

/-!
# Postfix order is the post-order of the syntax tree

The steps of a line that the grammar derives are the post-order of its tree. The invariant: an
expression adds its steps to the level around it, some of them finished and the others waiting with
operators that bind at least as tight as its category.
-/
namespace CalcSheet

namespace Category

/-- The least rank of the operators that an expression of the category leaves waiting. -/
def floor : Category → Nat
  | primary | quantity => 5
  | signed => 4
  | power => 3
  | product => 2
  | sum | whole => 1

/-- The greatest rank of an operator before an expression of the category. -/
def ceiling : Category → Nat
  | primary | quantity | signed => 4
  | power => 3
  | product => 1
  | sum | whole => 0

end Category

namespace Postfix

/-- The steps of an expression have been added to a level: some are finished, the others wait with
operators of at least the rank `floor`. -/
def Level.Adds (floor : Nat) (steps : List Step) (l l' : Level) : Prop :=
  ∃ finished pending, finished ++ pending.map Waiting.toStep = steps ∧
    (∀ w ∈ pending, floor ≤ w.operator.rank) ∧
    l' = ⟨l.output ++ finished, pending ++ l.waiting⟩

/-- No operator that waits outside binds tighter than `ceiling`. -/
def Level.Admits (ceiling : Nat) (l : Level) : Prop :=
  ∀ w ∈ l.waiting.head?, w.operator.rank ≤ ceiling

namespace Level
variable {floor floor' ceiling : Nat} {steps : List Step} {l l' : Level}

theorem Adds.mono (h : l.Adds floor steps l') (le : floor' ≤ floor) : l.Adds floor' steps l' := by
  obtain ⟨finished, pending, total, ranks, rfl⟩ := h
  exact ⟨finished, pending, total, fun w hw => le.trans (ranks w hw), rfl⟩

theorem Admits.mono {ceiling' : Nat} (h : l.Admits ceiling) (le : ceiling ≤ ceiling') :
    l.Admits ceiling' := fun w hw => (h w hw).trans le

theorem admits_of_waiting {w : Waiting} {outer : List Waiting} (h : l.waiting = w :: outer)
    (le : w.operator.rank ≤ ceiling) : l.Admits ceiling := by
  intro v hv
  obtain rfl : w = v := by simpa [h] using hv
  exact le

/-- Nothing waits before an expression that admits no operator. -/
theorem Admits.waiting_eq_nil (h : l.Admits 0) : l.waiting = [] := by
  cases waiting : l.waiting with
  | nil => rfl
  | cons w rest =>
    have rank := h w (by simp [waiting])
    have := w.operator.one_le_rank
    omega

/-- Above all ranks everything is finished. -/
theorem Adds.eq_of_five (h : l.Adds 5 steps l') : l' = ⟨l.output ++ steps, l.waiting⟩ := by
  obtain ⟨finished, pending, total, ranks, rfl⟩ := h
  cases pending with
  | nil => simpa using total
  | cons w rest =>
    have rank := ranks w List.mem_cons_self
    have := w.operator.rank_le_four
    omega

theorem Adds.flush (h : l.Adds floor steps l') (empty : l.waiting = []) :
    l'.flush = ⟨l.output ++ steps, []⟩ := by
  obtain ⟨finished, pending, total, ranks, rfl⟩ := h
  simp [Level.flush, empty, ← total]

end Level

/-- The state when an expression has been read that has changed the level. -/
def State.afterExpression (s : State) (l : Level) : State :=
  { s with level := l, afterOperand := true, textGap := false }

/-- The tokens are read without fault and add the steps to the level. -/
def Reads (floor : Nat) (ts : List Token) (steps : List Step) (s : State) : Prop :=
  ∃ l, s.level.Adds floor steps l ∧ takeAll s ts = .ok (s.afterExpression l)

namespace Reads
variable {s : State} {floor floor' : Nat} {ts us : List Token} {t : Token}
  {steps left right : List Step}

theorem mono (h : Reads floor ts steps s) (le : floor' ≤ floor) : Reads floor' ts steps s := by
  obtain ⟨l, adds, taken⟩ := h
  exact ⟨l, adds.mono le, taken⟩

/-- Where nothing is left waiting. -/
theorem finished
    (h : takeAll s ts = .ok (s.afterExpression ⟨s.level.output ++ steps, s.level.waiting⟩)) :
    Reads floor ts steps s :=
  ⟨_, ⟨steps, [], by simp, by simp, rfl⟩, h⟩

theorem takeAll_of_five (h : Reads 5 ts steps s) :
    takeAll s ts = .ok (s.afterExpression ⟨s.level.output ++ steps, s.level.waiting⟩) := by
  obtain ⟨l, adds, taken⟩ := h
  rw [taken, adds.eq_of_five]

/-- An operator between two operands, or none: what is read after the left one sets the operator
waiting, after those that bind at least as tight, and goes on with the right one. -/
theorem between {w : Waiting} {rest : List Token} (l : Reads floor ts left s)
    (finish : w.operator.rank ≤ floor ∧ (w.operator = .operator .pow → w.operator.rank < floor))
    (stay : ∀ v ∈ s.level.waiting.head?, v.operator.rank < w.operator.rank
      ∨ (v.operator.rank = w.operator.rank ∧ w.operator = .operator .pow))
    (next : ∀ l', takeAll (s.afterExpression l') us
      = takeAll ((s.afterExpression l').pushOperator w) rest)
    (r : ∀ s' : State, s'.afterOperand = false → s'.level.waiting = w :: s.level.waiting →
      Reads floor' rest right s')
    (le : w.operator.rank ≤ floor') :
    Reads w.operator.rank (ts ++ us) (left ++ right ++ [w.toStep]) s := by
  obtain ⟨_, ⟨finished, pending, total, ranks, rfl⟩, taken⟩ := l
  let middle := (s.afterExpression
    ⟨s.level.output ++ finished, pending ++ s.level.waiting⟩).pushOperator w
  have level : middle.level = ⟨s.level.output ++ left, w :: s.level.waiting⟩ := by
    have waits := Level.wait_append (s.level.output ++ finished)
      (fun v hv => ⟨finish.1.trans (ranks v hv), fun pow => (finish.2 pow).trans_le (ranks v hv)⟩)
      stay
    rw [List.append_assoc, total] at waits
    exact waits
  obtain ⟨_, ⟨finished', pending', total', ranks', rfl⟩, taken'⟩ := r middle rfl (by rw [level])
  refine ⟨⟨s.level.output ++ (left ++ finished'), (pending' ++ [w]) ++ s.level.waiting⟩,
    ⟨left ++ finished', pending' ++ [w], ?_, ?_, rfl⟩, ?_⟩
  · simp [← total']
  · intro v hv
    rcases List.mem_append.1 hv with hv | hv
    · exact le.trans (ranks' v hv)
    · rw [List.mem_singleton.1 hv]
  · rw [takeAll_append_of_eq taken, next, taken', level]
    simp [State.afterExpression, middle, State.pushOperator]

theorem operand {o : Operand} (token : t.lexeme = .operand o) (awaits : s.afterOperand = false) :
    Reads floor [t] [t.span.step (.push o)] s := by
  apply finished
  rw [takeAll_cons_of_eq (State.take_operand token awaits)]
  rfl

theorem unit {u : Option PhysicalUnit} (h : Reads 5 ts steps s) (token : t.lexeme = .unit u) :
    Reads floor (ts ++ [t]) (steps ++ [t.span.step (.attach u)]) s := by
  apply finished
  rw [takeAll_append_of_eq h.takeAll_of_five,
    takeAll_cons_of_eq (State.take_unit token rfl rfl), takeAll_nil]
  simp [State.afterExpression, Span.step, Token.span]

theorem minus (token : t.lexeme = .operator .sub) (awaits : s.afterOperand = false)
    (h : ∀ s' : State, s'.afterOperand = false →
      s'.level.waiting = ⟨.minus, some t.start, some t.stop⟩ :: s.level.waiting →
      Reads 4 ts steps s') :
    Reads 4 (t :: ts) (steps ++ [t.span.step .negate]) s := by
  let w : Waiting := ⟨.minus, some t.start, some t.stop⟩
  obtain ⟨_, ⟨finished, pending, total, ranks, rfl⟩, taken⟩ :=
    h { s with level := ⟨s.level.output, w :: s.level.waiting⟩ } awaits rfl
  refine ⟨⟨s.level.output ++ finished, (pending ++ [w]) ++ s.level.waiting⟩,
    ⟨finished, pending ++ [w], ?_, ?_, rfl⟩, ?_⟩
  · simp [← total, w, Waiting.toStep, Span.step, Token.span]
  · intro v hv
    rcases List.mem_append.1 hv with hv | hv
    · exact ranks v hv
    · rw [List.mem_singleton.1 hv]
      exact Nat.le_refl 4
  · rw [takeAll_cons_of_eq (State.take_minus token awaits), taken]
    simp [State.afterExpression]

theorem plus (token : t.lexeme = .operator .add) (awaits : s.afterOperand = false)
    (h : Reads floor ts steps s) : Reads floor (t :: ts) steps s := by
  obtain ⟨l, adds, taken⟩ := h
  refine ⟨l, adds, ?_⟩
  rw [takeAll_cons_of_eq (State.take_plus token awaits), taken]

theorem conversion {u : Option PhysicalUnit} (h : Reads floor ts steps s)
    (empty : s.level.waiting = []) (token : t.lexeme = .conversion u) :
    Reads floor' (ts ++ [t]) (steps ++ [t.span.step (.convert u)]) s := by
  obtain ⟨l, adds, taken⟩ := h
  have flush := adds.flush empty
  apply finished
  rw [takeAll_append_of_eq taken, takeAll_cons_of_eq (State.take_conversion token), takeAll_nil]
  simp [State.afterExpression, flush, empty, Span.step, Token.span]

/-- An operator other than `^` groups to the left. -/
theorem leftwards {w : Waiting} {rest : List Token} {rank ceiling : Nat} (l : Reads rank ts left s)
    (same : w.operator.rank = rank) (other : w.operator ≠ .operator .pow)
    (admits : s.level.Admits ceiling) (lt : ceiling < rank)
    (next : ∀ l', takeAll (s.afterExpression l') us
      = takeAll ((s.afterExpression l').pushOperator w) rest)
    (r : ∀ s' : State, s'.afterOperand = false → s'.level.Admits rank →
      Reads floor' rest right s')
    (le : rank ≤ floor') : Reads rank (ts ++ us) (left ++ right ++ [w.toStep]) s := by
  subst same
  refine l.between ⟨Nat.le_refl _, fun pow => absurd pow other⟩
    (fun v hv => .inl ((admits v hv).trans_lt lt)) next (fun s' awaits waiting => ?_) le
  exact r s' awaits (Level.admits_of_waiting waiting (Nat.le_refl _))

/-- `^` groups to the right. -/
theorem rightwards {rest : List Token} (l : Reads 4 ts left s) (admits : s.level.Admits 3)
    (token : t.lexeme = .operator .pow)
    (r : ∀ s' : State, s'.afterOperand = false → s'.level.Admits 3 → Reads 3 rest right s') :
    Reads 3 (ts ++ t :: rest) (left ++ right ++ [t.span.step (.operate .pow)]) s := by
  refine l.between (w := ⟨.operator .pow, some t.start, some t.stop⟩)
    ⟨Nat.le_succ 3, fun _ => Nat.lt_succ_self 3⟩ (fun v hv => ?_)
    (fun l => takeAll_cons_of_eq (State.take_operator token rfl) _)
    (fun s' awaits waiting => r s' awaits (Level.admits_of_waiting waiting (Nat.le_refl 3)))
    (Nat.le_refl 3)
  rcases Nat.lt_or_eq_of_le (admits v hv) with lt | eq
  · exact .inl lt
  · exact .inr ⟨eq, rfl⟩

/-- Brackets around an expression keep its steps and nothing else. -/
theorem group {opening closing : Token} {b : Bracket} (begins : opening.lexeme = .opening b)
    (ends : closing.lexeme = .closing b) (awaits : s.afterOperand = false) (ne : steps ≠ [])
    (h : ∀ s' : State, s'.afterOperand = false → s'.level = .empty → Reads floor ts steps s') :
    Reads floor' (opening :: ts ++ [closing]) steps s := by
  let inside : State := { s with
    level := .empty
    frames := ⟨b, opening.start, s.level, .empty⟩ :: s.frames
    afterOperand := false
    textGap := false }
  obtain ⟨l, adds, taken⟩ := h inside rfl rfl
  have flush : l.flush = ⟨steps, []⟩ := adds.flush rfl
  have closed := State.take_closing_group (s := inside.afterExpression l) ends rfl rfl rfl
    (by rw [State.afterExpression, flush]; exact ne)
  apply finished
  rw [List.cons_append, takeAll_cons_of_eq (State.take_opening begins awaits),
    takeAll_append_of_eq taken, takeAll_cons_of_eq closed, takeAll_nil]
  simp [State.afterExpression, inside, flush]

end Reads

/-! ### Cells and rows of a matrix -/

/-- The tokens of one cell. -/
def ReadsCell (s : State) (start : Nat) (ts : List Token) (steps : List Step) : Prop :=
  ∀ done layout, ∃ s', takeAll (s.inMatrix start done layout) ts = .ok s' ∧
    s.AtCellEnd start (done ++ steps) layout s'

/-- The tokens of one row of `cols` cells, up to the end of its last cell. -/
def ReadsRow (s : State) (start cols : Nat) (ts : List Token) (steps : List Step) : Prop :=
  ∀ done layout, layout.current = 0 → ∃ s' layout',
    takeAll (s.inMatrix start done layout) ts = .ok s' ∧
    s.AtCellEnd start (done ++ steps) layout' s' ∧
    layout'.rows = layout.rows ∧ layout'.cols? = layout.cols? ∧ layout'.current + 1 = cols ∧
    (layout.hasSeparator = true ∨ 2 ≤ cols → layout'.hasSeparator = true)

theorem Reads.cell {s : State} {floor start : Nat} {ts : List Token} {steps : List Step}
    (h : ∀ s' : State, s'.afterOperand = false → s'.level.waiting = [] →
      Reads floor ts steps s') : ReadsCell s start ts steps := by
  intro done layout
  obtain ⟨l, adds, taken⟩ := h (s.inMatrix start done layout) rfl rfl
  exact ⟨_, taken, adds.flush rfl, rfl⟩

theorem forall₂_ofFn {α β : Type} {R : α → β → Prop} {n : ℕ} {f : Fin n → α} {g : Fin n → β}
    (h : ∀ i, R (f i) (g i)) : List.Forall₂ R (List.ofFn f) (List.ofFn g) := by
  rw [List.ofFn_eq_map, List.ofFn_eq_map, List.forall₂_map_left_iff, List.forall₂_map_right_iff,
    List.forall₂_same]
  exact fun i _ => h i

/-- Commas end the cells of a row but for the last. -/
theorem readsRow_of_separated {s : State} {start : Nat} {tss : List (List Token)}
    {ts : List Token} (h : Separated .comma tss ts) {stepss : List (List Step)}
    (cells : List.Forall₂ (ReadsCell s start) tss stepss) (done : List Step) (layout : Layout) :
    ∃ s' layout', takeAll (s.inMatrix start done layout) ts = .ok s' ∧
      s.AtCellEnd start (done ++ stepss.flatten) layout' s' ∧
      layout'.rows = layout.rows ∧ layout'.cols? = layout.cols? ∧
      layout'.current + 1 = layout.current + tss.length ∧
      (layout.hasSeparator = true ∨ 2 ≤ tss.length → layout'.hasSeparator = true) := by
  induction h generalizing stepss done layout with
  | single ts =>
    cases cells with
    | cons cell none =>
      cases none
      obtain ⟨s', taken, ends⟩ := cell done layout
      exact ⟨s', layout, taken, by simpa using ends, rfl, rfl, by simp, by simp⟩
  | cons ts comma _ ih =>
    cases cells with
    | @cons _ steps _ stepss cell later =>
      obtain ⟨s', taken, ends⟩ := cell done layout
      obtain ⟨s'', layout', taken', ends', rows, cols, current, separator⟩ := ih later
        (done ++ steps) { layout with current := layout.current + 1, hasSeparator := true }
      refine ⟨s'', layout', ?_, by simpa using ends', rows, cols, ?_, fun _ => separator (.inl rfl)⟩
      · rw [takeAll_append_of_eq taken, takeAll_cons_of_eq (ends.take_comma comma), taken']
      · rw [current, List.length_cons]
        dsimp only
        omega

/-- Semicolons end the rows of a matrix but for the last. -/
theorem readsRows_of_separated {s : State} {start cols : Nat} {tss : List (List Token)}
    {ts : List Token} (h : Separated .semicolon tss ts) {stepss : List (List Step)}
    (rows : List.Forall₂ (ReadsRow s start cols) tss stepss) (done : List Step) (layout : Layout)
    (begins : layout.current = 0) (width : ∀ n ∈ layout.cols?, n = cols) :
    ∃ s' layout', takeAll (s.inMatrix start done layout) ts = .ok s' ∧
      s.AtCellEnd start (done ++ stepss.flatten) layout' s' ∧
      layout'.rows + 1 = layout.rows + tss.length ∧ (∀ n ∈ layout'.cols?, n = cols) ∧
      layout'.current + 1 = cols ∧
      (layout.hasSeparator = true ∨ 2 ≤ cols ∨ 2 ≤ tss.length → layout'.hasSeparator = true) := by
  induction h generalizing stepss done layout with
  | single ts =>
    cases rows with
    | cons row none =>
      cases none
      obtain ⟨s', layout', taken, ends, rows, known, current, separator⟩ := row done layout begins
      refine ⟨s', layout', taken, by simpa using ends, by simp [rows], ?_, current, ?_⟩
      · rwa [known]
      · simpa using separator
  | cons ts semicolon _ ih =>
    cases rows with
    | @cons _ steps _ stepss row later =>
      obtain ⟨s', layout', taken, ends, rows, known, current, separator⟩ := row done layout begins
      have known' : ∀ n ∈ layout'.cols?, n = layout'.current + 1 := by
        rw [known, current]
        exact width
      obtain ⟨s'', layout'', taken', ends', rows', cols', current', separator'⟩ := ih later
        (done ++ steps) ⟨layout'.rows + 1, some (layout'.current + 1), 0, true⟩ rfl
        (by simp [current])
      refine ⟨s'', layout'', ?_, by simpa using ends', ?_, cols', current',
        fun _ => separator' (.inl rfl)⟩
      · rw [takeAll_append_of_eq taken, takeAll_cons_of_eq (ends.take_semicolon known' semicolon),
          taken']
      · rw [rows', List.length_cons]
        dsimp only
        omega

theorem Reads.matrix {s : State} {opening closing : Token} {floor rows cols : Nat}
    {cell : Fin rows → Fin cols → List Token} {row : Fin rows → List Token} {ts : List Token}
    {steps : Fin rows → Fin cols → List Step} (begins : opening.lexeme = .opening .square)
    (ends : closing.lexeme = .closing .square) (awaits : s.afterOperand = false)
    (size : 2 ≤ rows * cols) (commas : ∀ i, Separated .comma (List.ofFn (cell i)) (row i))
    (semicolons : Separated .semicolon (List.ofFn row) ts)
    (cells : ∀ i j, ReadsCell s opening.start (cell i j) (steps i j)) :
    Reads floor (opening :: ts ++ [closing])
      (((List.finRange rows).flatMap fun i => (List.finRange cols).flatMap fun j => steps i j)
        ++ [⟨.matrix rows cols, some opening.start, none⟩]) s := by
  have rowsRead (i : Fin rows) :
      ReadsRow s opening.start cols (row i) (List.ofFn (steps i)).flatten := by
    intro done layout begins
    have read := readsRow_of_separated (commas i) (forall₂_ofFn (cells i)) done layout
    simpa [begins] using read
  obtain ⟨s', layout, taken, ended, height, known, width, separator⟩ :=
    readsRows_of_separated semicolons (forall₂_ofFn rowsRead) [] .empty rfl (by simp [Layout.empty])
  have many : 2 ≤ cols ∨ 2 ≤ rows := by
    by_contra few
    have : rows * cols ≤ 1 * 1 := Nat.mul_le_mul (by omega) (by omega)
    omega
  have closed := ended.take_closing (fun n hn => (known n hn).trans width.symm)
    (separator (.inr (by simpa using many))) ends
  rw [List.length_ofFn] at height
  have height : layout.rows + 1 = rows := by simpa [Layout.empty] using height
  apply finished
  rw [List.cons_append, takeAll_cons_of_eq (State.take_opening begins awaits)]
  change takeAll (s.inMatrix opening.start [] .empty) (ts ++ [closing]) = _
  rw [takeAll_append_of_eq taken, takeAll_cons_of_eq closed, takeAll_nil, height, width]
  simp [State.afterExpression, List.ofFn_eq_map, List.flatMap_def]

end Postfix

open Postfix

/-- Reading an expression where an operand is awaited adds the steps of its tree. -/
theorem Derives.reads {c : Category} {ts : List Token} {e : Tree} (h : Derives c ts e) (s : State)
    (awaits : s.afterOperand = false) (admits : s.level.Admits c.ceiling) :
    Reads c.floor ts e.steps s := by
  induction h generalizing s with
  | operand token => exact .operand token awaits
  | group begins inner ends ih =>
    exact .group begins ends awaits (Tree.steps_ne_nil _) fun s' awaits empty =>
      ih s' awaits (by simp [Level.Admits, empty, Level.empty])
  | matrix begins size _ commas semicolons ends ih =>
    refine .matrix begins ends awaits size commas semicolons fun i j =>
      Reads.cell fun s' awaits empty => ih i j s' awaits (by simp [Level.Admits, empty])
  | ofPrimary _ ih => exact ih s awaits admits
  | unit _ token ih => exact (ih s awaits admits).unit token
  | ofQuantity _ ih => exact (ih s awaits admits).mono (by decide)
  | minus token _ ih =>
    exact .minus token awaits fun s' awaits waiting =>
      ih s' awaits (Level.admits_of_waiting waiting (Nat.le_refl 4))
  | plus token _ ih => exact (ih s awaits admits).plus token awaits
  | ofSigned _ ih => exact (ih s awaits (admits.mono (by decide))).mono (by decide)
  | raise _ token _ ihl ihr =>
    exact (ihl s awaits (admits.mono (by decide))).rightwards admits token ihr
  | ofPower _ ih => exact (ih s awaits (admits.mono (by decide))).mono (by decide)
  | @multiply t op _ _ _ _ _ kind token _ ihl ihr =>
    refine (ihl s awaits admits).leftwards (w := ⟨.operator op, some t.start, some t.stop⟩)
      (by rcases kind with rfl | rfl <;> rfl) (by rcases kind with rfl | rfl <;> simp)
      admits (by decide) (fun l => takeAll_cons_of_eq (State.take_operator token rfl) _)
      (fun s' awaits admits => ihr s' awaits (admits.mono (by decide))) (by decide)
  | juxtapose _ begins right ihl ihr =>
    refine (ihl s awaits admits).leftwards (w := ⟨.operator .mul, none, none⟩) rfl (by decide)
      admits (by decide) (fun l => ?_)
      (fun s' awaits admits => ihr s' awaits (admits.mono (by decide))) (by decide)
    obtain ⟨t, rest, rfl⟩ := List.exists_cons_of_ne_nil right.ne_nil
    have factor : (∃ o, t.lexeme = .operand o) ∨ ∃ b, t.lexeme = .opening b := by
      have := begins t rfl
      cases lexeme : t.lexeme <;> simp_all [Lexeme.BeginsFactor]
    rw [takeAll_cons, State.take_juxtaposed rfl rfl factor, ← takeAll_cons]
  | ofProduct _ ih => exact (ih s awaits (admits.mono (by decide))).mono (by decide)
  | @add t op _ _ _ _ _ kind token _ ihl ihr =>
    refine (ihl s awaits admits).leftwards (w := ⟨.operator op, some t.start, some t.stop⟩)
      (by rcases kind with rfl | rfl <;> rfl) (by rcases kind with rfl | rfl <;> simp)
      admits (by decide) (fun l => takeAll_cons_of_eq (State.take_operator token rfl) _)
      ihr (by decide)
  | ofSum _ ih => exact ih s awaits admits
  | convert _ token ih =>
    exact (ih s awaits admits).conversion admits.waiting_eq_nil token

namespace Postfix

/-- A whole expression at the beginning of a line, or behind its equals sign. -/
theorem output_of_derives {ts : List Token} {e : Tree} (h : Derives .whole ts e)
    (assignment : Option Step) :
    (run { State.initial with assignment } ts).1.outermost.flush.output = e.steps
      ∧ (run { State.initial with assignment } ts).1.assignment = assignment := by
  obtain ⟨l, adds, taken⟩ := h.reads { State.initial with assignment } rfl (by
    simp [Level.Admits, State.initial, Level.empty])
  rw [run_eq_of_takeAll taken]
  refine ⟨?_, rfl⟩
  change l.flush.output = _
  rw [adds.flush rfl]
  rfl

/-- The steps of a line that is an expression, with white space anywhere in it. -/
theorem ofTokens_of_derives {ts : List Token} {e : Tree}
    (h : Derives .whole (ts.filter (!·.lexeme.isBlank)) e) : ofTokens ts = e.steps := by
  obtain ⟨output, last⟩ := output_of_derives h none
  rw [← ofTokens_filter_blank, ofTokens]
  change (run { State.initial with assignment := none } _).1.outermost.flush.output
    ++ (run { State.initial with assignment := none } _).1.assignment.toList = _
  rw [output, last]
  exact List.append_nil e.steps

/-- The equals sign forgets the tokens before it. -/
theorem takeAll_assignment {target equals : Token} {name : Text}
    (begins : target.lexeme = .operand (.variable name)) (sign : equals.lexeme = .assign) :
    takeAll .initial [target, equals]
      = .ok { State.initial with assignment := some (equals.span.step .assign) } := by
  rw [takeAll_cons_of_eq (State.take_operand begins rfl),
    takeAll_cons_of_eq (State.take_assign sign), takeAll_nil]
  rfl

/-- The steps of a line that the grammar derives, with white space anywhere in it, are the
post-order of its tree, and then the assignment if it is one. -/
theorem ofTokens_eq_postorder {ts : List Token} {e : Tree} {assignment : Option Span}
    (h : DerivesLine (ts.filter (!·.lexeme.isBlank)) e assignment) :
    ofTokens ts = e.steps ++ assignment.toList.map (·.step .assign) := by
  rw [← ofTokens_filter_blank]
  generalize ts.filter (!·.lexeme.isBlank) = tokens at h
  cases h with
  | expression h =>
    obtain ⟨output, last⟩ := output_of_derives h none
    change (run { State.initial with assignment := none } tokens).1.outermost.flush.output
      ++ (run { State.initial with assignment := none } tokens).1.assignment.toList = _
    rw [output, last]
    rfl
  | @assignment target equals _ ts _ begins sign h =>
    obtain ⟨output, last⟩ := output_of_derives h (some (equals.span.step .assign))
    have ran := run_append_of_takeAll (takeAll_assignment begins sign) ts
    change (run .initial ([target, equals] ++ ts)).1.outermost.flush.output
      ++ (run .initial ([target, equals] ++ ts)).1.assignment.toList = _
    rw [ran, output, last]
    rfl

/-- The tokens of `a = [1, -2^x] 3`. -/
def matrixLine : List Token :=
  [⟨.operand (.variable ['a']), 0, 1⟩, ⟨.text [' '], 1, 2⟩, ⟨.assign, 2, 3⟩, ⟨.text [' '], 3, 4⟩,
    ⟨.opening .square, 4, 5⟩, ⟨.operand (.number .one), 5, 6⟩, ⟨.comma, 6, 7⟩,
    ⟨.text [' '], 7, 8⟩, ⟨.operator .sub, 8, 9⟩, ⟨.operand (.number (.ofNat 2)), 9, 10⟩,
    ⟨.operator .pow, 10, 11⟩, ⟨.operand (.variable ['x']), 11, 12⟩, ⟨.closing .square, 12, 13⟩,
    ⟨.text [' '], 13, 14⟩, ⟨.operand (.number (.ofNat 3)), 14, 15⟩]

def matrixCells : Fin 1 → Fin 2 → Tree
  | 0, 0 => .operand (.number .one) ⟨some 5, some 6⟩
  | 0, 1 =>
      .binary .pow (.negation (.operand (.number (.ofNat 2)) ⟨some 9, some 10⟩) ⟨some 8, some 9⟩)
        (.operand (.variable ['x']) ⟨some 11, some 12⟩) ⟨some 10, some 11⟩

def matrixTree : Tree :=
  .binary .mul (.matrix 1 2 matrixCells ⟨some 4, none⟩)
    (.operand (.number (.ofNat 3)) ⟨some 14, some 15⟩) .absent

theorem ofTokens_matrixLine :
    DerivesLine (matrixLine.filter (!·.lexeme.isBlank)) matrixTree (some ⟨some 2, some 3⟩) ∧
    (ofTokens matrixLine).map (·.action) =
      [.push (.number .one), .push (.number (.ofNat 2)), .negate, .push (.variable ['x']),
        .operate .pow, .matrix 1 2, .push (.number (.ofNat 3)), .operate .mul, .assign] := by
  have quantity (x : Decimal) (a b : Nat) : Derives .quantity [⟨.operand (.number x), a, b⟩]
      (.operand (.number x) ⟨some a, some b⟩) := .ofPrimary (.operand rfl)
  have power (x : Decimal) (a b : Nat) := Derives.ofSigned (.ofQuantity (quantity x a b))
  have cells (i : Fin 1) (j : Fin 2) : Derives .whole
      (match j with
        | 0 => [⟨.operand (.number .one), 5, 6⟩]
        | 1 => [⟨.operator .sub, 8, 9⟩, ⟨.operand (.number (.ofNat 2)), 9, 10⟩,
            ⟨.operator .pow, 10, 11⟩, ⟨.operand (.variable ['x']), 11, 12⟩]) (matrixCells i j) := by
    match i, j with
    | 0, 0 => exact .ofSum (.ofProduct (.ofPower (power _ _ _)))
    | 0, 1 =>
      refine .ofSum (.ofProduct (.ofPower ?_))
      exact .raise (.minus rfl (.ofQuantity (quantity _ _ _))) rfl
        (.ofSigned (.ofQuantity (.ofPrimary (.operand rfl))))
  have matrix : Derives .primary _ (.matrix 1 2 matrixCells ⟨some 4, none⟩) :=
    @Derives.matrix ⟨.opening .square, 4, 5⟩ ⟨.closing .square, 12, 13⟩ _ _ _ _ _ _ rfl
      (by decide) cells (fun _ => .cons _ (t := ⟨.comma, 6, 7⟩) rfl (.single _)) (.single _) rfl
  have product := Derives.juxtapose (.ofPower (.ofSigned (.ofQuantity (.ofPrimary matrix))))
    (by simp [Lexeme.BeginsFactor]) (power (.ofNat 3) 14 15)
  have h : DerivesLine (matrixLine.filter (!·.lexeme.isBlank)) matrixTree
      (some ⟨some 2, some 3⟩) := .assignment rfl rfl (.ofSum (.ofProduct product))
  refine ⟨h, ?_⟩
  rw [ofTokens_eq_postorder h]
  rfl

end Postfix
end CalcSheet
