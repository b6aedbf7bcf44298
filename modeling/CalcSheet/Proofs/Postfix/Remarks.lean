import CalcSheet.Proofs.Postfix.Run
import CalcSheet.Proofs.Success

/-!
# Remarks in brackets

A pair of brackets around nothing but text holds no value. Where an operand is awaited, it is text
like any other. Right behind an operand, though, the opening bracket has let a multiplication wait
before the pair turns out to be empty, and what comes next is its second factor.
-/
namespace CalcSheet.Postfix

/-- Fitting brackets with nothing but text between them. -/
inductive IsRemark : List Token → Prop where
  | brackets {b : Bracket} {opening closing : Token} {inner : List Token}
      (opens : opening.lexeme = .opening b) (texts : ∀ t ∈ inner, ∃ u, t.lexeme = .text u)
      (closes : closing.lexeme = .closing b) : IsRemark (opening :: (inner ++ [closing]))

/-- A token of text that is not white space. -/
def IsWords (t : Token) : Prop := (∃ u, t.lexeme = .text u) ∧ t.lexeme.isBlank = false

variable {s s' : State} {before remark : List Token} {words : Token} {fault : BracketFault}

/-- The steps of a line that goes on in a state with further tokens. -/
def State.stepsThrough (s : State) (ts : List Token) : List Step :=
  let final := (run s ts).1
  final.outermost.flush.output ++ final.assignment.toList

theorem State.stepsThrough_append (taken : takeAll s before = .ok s') (after : List Token) :
    s.stepsThrough (before ++ after) = s'.stepsThrough after := by
  rw [stepsThrough, run_append_of_takeAll taken, stepsThrough]

theorem ofTokens_append_of_takeAll (taken : takeAll .initial before = .ok s) (after : List Token) :
    ofTokens (before ++ after) = s.stepsThrough after := State.stepsThrough_append taken after

/-- Behind a bracket at fault nothing counts. -/
theorem run_append_of_fault (failed : takeAll s before = .error fault) (after : List Token) :
    run s (before ++ after) = run s before := by
  induction before generalizing s with
  | nil => exact nomatch failed
  | cons t ts ih =>
    rw [takeAll_cons] at failed
    rw [List.cons_append, run, run]
    cases taken : s.take t with
    | error _ => rfl
    | ok next =>
      rw [taken] at failed
      exact ih failed

theorem ofTokens_append_of_fault (failed : takeAll .initial before = .error fault)
    (after : List Token) : ofTokens (before ++ after) = ofTokens before := by
  rw [ofTokens, run_append_of_fault failed, ofTokens]

/-! ### What a remark does -/

theorem take_words (isWords : IsWords words) : s.take words = .ok { s with textGap := true } := by
  obtain ⟨⟨u, text⟩, ink⟩ := isWords
  rw [text] at ink
  simp [State.take, text, ink]

/-- Text changes nothing but whether there is a gap. -/
theorem exists_takeAll_texts {texts : List Token} (isText : ∀ t ∈ texts, ∃ u, t.lexeme = .text u)
    (s : State) : ∃ gap, takeAll s texts = .ok { s with textGap := gap } := by
  induction texts generalizing s with
  | nil => exact ⟨s.textGap, rfl⟩
  | cons t ts ih =>
    obtain ⟨⟨u, text⟩, others⟩ := List.forall_mem_cons.1 isText
    cases blank : t.lexeme.isBlank with
    | true =>
      obtain ⟨gap, taken⟩ := ih others s
      exact ⟨gap, (takeAll_cons_of_eq (take_blank blank) ts).trans taken⟩
    | false =>
      obtain ⟨gap, taken⟩ := ih others { s with textGap := true }
      exact ⟨gap, (takeAll_cons_of_eq (take_words ⟨⟨u, text⟩, blank⟩) ts).trans taken⟩

/-- Behind a remark an operand is awaited, and there is a gap. What its opening bracket let wait
goes on waiting. -/
theorem takeAll_remark (isRemark : IsRemark remark) (s : State) :
    takeAll s remark = .ok { s.beginOperand with afterOperand := false, textGap := true } := by
  obtain ⟨opens, texts, closes⟩ := isRemark
  next b opening closing inner =>
  obtain ⟨gap, taken⟩ := exists_takeAll_texts texts (s.openBracket b opening.start)
  have opened : s.take opening = .ok (s.openBracket b opening.start) := by
    simp [State.take, opens]
  rw [takeAll_cons_of_eq opened, takeAll_append_of_eq taken]
  simp [State.take, closes, State.close, State.openBracket, State.closeGroup, Level.empty,
    Level.flush, Layout.empty, takeAll]

/-- A line goes on behind a remark as behind words, except that an operand is awaited. -/
theorem ofTokens_append_remark (isRemark : IsRemark remark) (isWords : IsWords words)
    (taken : takeAll .initial before = .ok s) (after : List Token) :
    ofTokens (before ++ (remark ++ after))
      = { s.beginOperand with afterOperand := false }.stepsThrough (words :: after) := by
  rw [ofTokens_append_of_takeAll taken, State.stepsThrough,
    run_append_of_takeAll (takeAll_remark isRemark s), State.stepsThrough, run,
    take_words isWords]

/-! ### Sums behind a remark -/

/-- How many additions are among the steps. -/
def additions (steps : List Step) : Nat := steps.countP (·.action == .operate .add)

theorem Level.wait_flush_perm (l : Level) (w : Waiting) :
    (l.wait w).flush.output.Perm (l.flush.output ++ [w.toStep]) := by
  let staysOpen (v : Waiting) : Bool := decide (v.operator.rank < w.operator.rank)
    || (v.operator.rank == w.operator.rank && w.operator == .operator .pow)
  let finished := l.waiting.takeWhile (!staysOpen ·)
  have whole : finished ++ l.waiting.drop finished.length = l.waiting :=
    List.prefix_iff_eq_append.1 (List.takeWhile_prefix _)
  change (l.output ++ finished.map Waiting.toStep
    ++ (w :: l.waiting.drop finished.length).map Waiting.toStep).Perm _
  have split : l.flush.output = l.output ++ finished.map Waiting.toStep
      ++ (l.waiting.drop finished.length).map Waiting.toStep := by
    rw [Level.flush, ← whole, List.map_append, List.append_assoc, whole]
  rw [split, List.map_cons]
  exact List.perm_middle.trans (List.perm_append_singleton _ _).symm

/-- A state outside of all brackets yields the steps of its level. -/
theorem State.additions_stepsThrough_nil (closed : s.frames = []) :
    additions (s.stepsThrough []) = additions s.level.flush.output
      + additions s.assignment.toList := by
  rw [stepsThrough, run, outermost, closed, additions, List.countP_append]
  rfl

theorem Level.additions_emit (l : Level) (o : Operand) (start? stop? : Option Nat) :
    additions (Level.flush ⟨l.output ++ [⟨.push o, start?, stop?⟩], l.waiting⟩).output
      = additions l.flush.output := by
  simp [additions, flush]

theorem Level.additions_wait (l : Level) (w : Waiting) :
    additions (l.wait w).flush.output = additions l.flush.output + additions [w.toStep] := by
  rw [additions, (l.wait_flush_perm w).countP_eq, List.countP_append]
  rfl

theorem State.additions_beginOperand (s : State) :
    additions s.beginOperand.level.flush.output = additions s.level.flush.output := by
  unfold beginOperand
  split
  · exact Level.additions_wait _ _
  · rfl

/-- A plus sign, and a one to be added. -/
def plusOne : List Token := [⟨.operator .add, 0, 1⟩, ⟨.operand (.number .one), 1, 2⟩]

/-- Behind an operand a plus sign adds. -/
theorem State.additions_plusOne (closed : s.frames = []) (after : s.afterOperand = true) :
    additions (s.stepsThrough plusOne) = additions (s.stepsThrough []) + 1 := by
  have taken : takeAll s plusOne = .ok _ :=
    (takeAll_cons_of_eq (take_operator rfl after) _).trans
      (takeAll_cons_of_eq (take_operand rfl rfl) [])
  rw [← List.append_nil plusOne, stepsThrough_append taken, additions_stepsThrough_nil closed,
    additions_stepsThrough_nil (by exact closed), Level.additions_emit]
  dsimp only [pushOperator]
  rw [Level.additions_wait, Nat.add_right_comm]
  rfl

/-- Where an operand is awaited a plus sign is dropped. -/
theorem State.additions_plusOne_of_awaits (closed : s.frames = [])
    (awaits : s.afterOperand = false) :
    additions (s.stepsThrough plusOne) = additions (s.stepsThrough []) := by
  have taken : takeAll s plusOne = .ok _ :=
    (takeAll_cons_of_eq (take_plus rfl awaits) _).trans
      (takeAll_cons_of_eq (take_operand rfl awaits) [])
  rw [← List.append_nil plusOne, stepsThrough_append taken, additions_stepsThrough_nil closed,
    additions_stepsThrough_nil (by exact closed), Level.additions_emit]

/-- Outside of other brackets and behind an operand, a remark keeps a sum from being added. -/
theorem ofTokens_remark_plusOne_ne (isRemark : IsRemark remark) (isWords : IsWords words)
    (taken : takeAll .initial before = .ok s) (closed : s.frames = [])
    (behind : s.afterOperand = true) :
    ofTokens (before ++ (remark ++ plusOne)) ≠ ofTokens (before ++ words :: plusOne) := by
  intro same
  have begun : s.beginOperand.frames = [] ∧ s.beginOperand.assignment = s.assignment := by
    unfold State.beginOperand
    split <;> exact ⟨closed, rfl⟩
  have taken_ (r : State) : takeAll r [words] = .ok { r with textGap := true } :=
    takeAll_cons_of_eq (take_words isWords) []
  rw [ofTokens_append_remark isRemark isWords taken, ofTokens_append_of_takeAll taken,
    ← List.singleton_append, State.stepsThrough_append (taken_ _),
    State.stepsThrough_append (taken_ _)] at same
  have fewer := congrArg additions same
  rw [State.additions_plusOne_of_awaits (by exact begun.1) rfl,
    State.additions_plusOne (by exact closed) (by exact behind),
    State.additions_stepsThrough_nil (by exact begun.1),
    State.additions_stepsThrough_nil (by exact closed)] at fewer
  dsimp only at fewer
  rw [State.additions_beginOperand, begun.2] at fewer
  omega

/-- A remark is the same as words where a bracket before it is at fault or an operand is awaited.
Behind an operand it is words after which another operand is awaited, and unless there has been text
already the two are multiplied. So outside of other brackets it is not the same as words there: they
differ in some line that goes on behind them. -/
theorem ofTokens_remark (isRemark : IsRemark remark) (isWords : IsWords words)
    (before : List Token) :
    (∀ fault, takeAll .initial before = .error fault → ∀ after,
      ofTokens (before ++ (remark ++ after)) = ofTokens (before ++ words :: after))
    ∧ ∀ s, takeAll .initial before = .ok s →
      (s.afterOperand = false → ∀ after,
        ofTokens (before ++ (remark ++ after)) = ofTokens (before ++ words :: after))
      ∧ (s.afterOperand = true → ∀ after,
        ofTokens (before ++ (remark ++ after))
          = { (if s.textGap then s else s.pushOperator ⟨.operator .mul, none, none⟩) with
              afterOperand := false }.stepsThrough (words :: after))
      ∧ (s.afterOperand = true → s.frames = [] → ∃ after, (∀ t ∈ after, t.lexeme ≠ .assign)
        ∧ ofTokens (before ++ (remark ++ after)) ≠ ofTokens (before ++ words :: after)) := by
  refine ⟨fun fault failed after => ?_, fun s taken => ⟨fun awaits after => ?_,
    fun behind after => ?_, fun behind closed => ⟨plusOne, ?_, ?_⟩⟩⟩
  · rw [ofTokens_append_of_fault failed, ofTokens_append_of_fault failed]
  · rw [ofTokens_append_remark isRemark isWords taken, ofTokens_append_of_takeAll taken,
      State.beginOperand_of_not_afterOperand awaits, ← awaits]
  · rw [ofTokens_append_remark isRemark isWords taken, State.beginOperand, behind]
    cases s.textGap <;> rfl
  · simp [plusOne]
  · exact ofTokens_remark_plusOne_ne isRemark isWords taken closed behind

/-- In `2 * (each) 3` the remark is the same as the word. -/
theorem ofTokens_remark_each :
    let each : Token := ⟨.text ['e', 'a', 'c', 'h'], 5, 9⟩
    let remark : List Token := [⟨.opening .round, 4, 5⟩, each, ⟨.closing .round, 9, 10⟩]
    let factor : List Token := [⟨.operand (.number (.ofNat 2)), 0, 1⟩, ⟨.operator .mul, 2, 3⟩]
    let three : List Token := [⟨.operand (.number (.ofNat 3)), 11, 12⟩]
    IsRemark remark ∧ IsWords each
      ∧ ofTokens (factor ++ (remark ++ three)) = ofTokens (factor ++ each :: three) := by
  intro each remark factor three
  have isRemark : IsRemark remark :=
    @IsRemark.brackets .round _ _ [each] rfl (List.forall_mem_singleton.2 ⟨_, rfl⟩) rfl
  have isWords : IsWords each := ⟨⟨_, rfl⟩, by decide⟩
  exact ⟨isRemark, isWords, ((ofTokens_remark isRemark isWords factor).2 _ rfl).1 rfl three⟩

/-- A remark is not always the same as words: `3 (each) + 4` is three times four. -/
theorem not_forall_remarks :
    ¬ ∀ (before remark after : List Token) (words : Token), IsRemark remark → IsWords words →
      (∀ t ∈ after, t.lexeme ≠ .assign) →
      ofTokens (before ++ (remark ++ after)) = ofTokens (before ++ words :: after) := by
  intro always
  let each : Token := ⟨.text ['e', 'a', 'c', 'h'], 3, 7⟩
  have isRemark : IsRemark [⟨.opening .round, 2, 3⟩, each, ⟨.closing .round, 7, 8⟩] :=
    @IsRemark.brackets .round _ _ [each] rfl (List.forall_mem_singleton.2 ⟨_, rfl⟩) rfl
  have same := always [⟨.operand (.number (.ofNat 3)), 0, 1⟩] _
    [⟨.operator .add, 9, 10⟩, ⟨.operand (.number (.ofNat 4)), 11, 12⟩] each isRemark
    ⟨⟨_, rfl⟩, by decide⟩ (by decide)
  exact absurd same (by decide +kernel)

end CalcSheet.Postfix
