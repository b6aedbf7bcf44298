import CalcSheet.Proofs.Evaluation.Assignments
import CalcSheet.Proofs.Postfix.Enclosed
import CalcSheet.Proofs.Token.Lines

/-!
# What an assignment begins with

Whether a line assigns, and to which name, is settled by its beginning and by no name that is known.
The scanner puts the name and one equals sign first, of which only the equals sign is left among the
steps, in last place, and with a result the line is an assignment.
-/
namespace CalcSheet

variable {line : Text} {names : List KnownName} {tokens : List Token}

/-! ### Steps behind an equals sign -/

namespace Postfix

variable {s base : State} {t : Token}

theorem behind_nil (l : Level) : l.behind [] = l := by simp [Level.behind]

theorem innermost_nil (l : Level) (fs : List Frame) : innermost [] l fs = l := by
  cases fs with
  | nil => exact behind_nil l
  | cons => rfl

theorem nested_nil (fs : List Frame) : nested [] [] fs = fs := by
  induction fs with
  | nil => rfl
  | cons f fs ih => rw [nested, innermost_nil, ih]

namespace State

/-- The state right behind an equals sign. -/
def assigning (step : Step) : State := { initial with assignment := some step }

theorem within_assigning (s : State) (step : Step) :
    s.within (assigning step) = { s with assignment := some step } := by
  rw [within, show (assigning step).level.output = [] from rfl, innermost_nil,
    show (assigning step).frames = [] from rfl, nested_nil]
  rfl

/-- Where nothing is open in the other state, a token does the same as without it. -/
theorem take_within_of_outside (outside : base.frames = []) (other : t.lexeme ≠ .assign) :
    (s.within base).take t = (·.within base) <$> s.take t := by
  unfold take
  cases lexeme : t.lexeme with
  | text u => dsimp only; split <;> rfl
  | operand o =>
    dsimp only
    rw [within_beginOperand, within_emit]
    rfl
  | unit u =>
    dsimp only
    rw [show (s.within base).afterOperand = s.afterOperand from rfl,
      show (s.within base).textGap = s.textGap from rfl, within_emit]
    split <;> rfl
  | conversion u =>
    dsimp only
    rw [within_flush, within_emit]
    rfl
  | opening b =>
    dsimp only
    rw [openBracket, within_beginOperand]
    rfl
  | closing b =>
    -- With no bracket open on either side, the closing one is at fault on both.
    dsimp only
    cases frames : s.frames with
    | nil => simp [close, frames, within, nested, outside, Functor.map, Except.map]
    | cons frame outer => exact within_close frames base b
  | comma | semicolon =>
    dsimp only
    cases frames : s.frames with
    | nil => simp [separate, frames, within, nested, outside, Functor.map, Except.map]
    | cons frame outer => exact within_separate frames base _
  | assign => exact absurd lexeme other
  | operator op =>
    dsimp only
    rw [show (s.within base).afterOperand = s.afterOperand from rfl, within_pushOperator]
    split
    · rfl
    · split
      · cases frames : s.frames <;>
          simp [within, innermost, nested, Level.behind, frames, Functor.map, Except.map]
      · rfl
      · rfl

end State

theorem run_within_of_outside (outside : base.frames = [])
    (others : ∀ t ∈ tokens, t.lexeme ≠ .assign) :
    run (s.within base) tokens = ((run s tokens).1.within base, (run s tokens).2) := by
  induction tokens generalizing s with
  | nil =>
    cases frames : s.frames <;> simp [run, State.within, nested, frames, outside]
  | cons t rest ih =>
    obtain ⟨here, later⟩ := List.forall_mem_cons.1 others
    rw [run, run, State.take_within_of_outside outside here]
    cases s.take t with
    | error fault => rfl
    | ok next => exact ih later

/-- Behind an equals sign the steps are those of the rest by itself, and then the assignment. -/
theorem ofTokens_append_of_assigning {before : List Token} {step : Step}
    (taken : takeAll .initial before = .ok (State.assigning step))
    (others : ∀ t ∈ tokens, t.lexeme ≠ .assign) :
    ofTokens (before ++ tokens) = ofTokens tokens ++ [step] := by
  have behind : run (State.initial.within (State.assigning step)) tokens = _ :=
    run_within_of_outside rfl others
  rw [State.within_assigning, State.within_assigning] at behind
  have plain : (run .initial tokens).1.assignment = none := assignment_run others
  rw [ofTokens, ofTokens, run_append_of_takeAll taken, State.assigning, behind, plain]
  simp [State.outermost]

theorem ne_assign_of_mem_ofTokens (others : ∀ t ∈ tokens, t.lexeme ≠ .assign) :
    ∀ step ∈ ofTokens tokens, step.action ≠ .assign := by
  have plain : (run .initial tokens).1.assignment = none := assignment_run others
  rw [ofTokens, plain, Option.toList_none, List.append_nil]
  exact (holds_ne_assign_run tokens).outermost.flush isInherited_ne_assign

end Postfix

/-! ### Tokens of the beginning -/

namespace Assignment

variable {a : Assignment} {name : Text}

/-- White space, or nothing. -/
def IsGap (tokens : List Token) : Prop := tokens.length ≤ 1 ∧ ∀ t ∈ tokens, t.lexeme.isBlank = true

/-- The tokens that an assignment to a name begins with: the name as a variable, behind white space
or nothing, and the equals sign, behind white space or nothing again. -/
def Begins (name : Text) (front : List Token) (equals : Token) : Prop :=
  ∃ lead gap target, front = lead ++ target :: (gap ++ [equals]) ∧ IsGap lead ∧ IsGap gap
    ∧ target.lexeme = .operand (.variable name) ∧ equals.lexeme = .assign

theorem blank_of_parse? (parsed : parse? line = some a) :
    a.lead.all Text.isBlank = true ∧ a.gap.all Text.isBlank = true := by
  unfold parse? at parsed
  dsimp only at parsed
  split at parsed
  · split at parsed
    · obtain rfl := Option.some.inj parsed
      exact ⟨List.all_takeWhile, List.all_takeWhile⟩
    · cases parsed
  · cases parsed

theorem isGap_text {t : Text} (blank : t.all Text.isBlank = true) (start stop : Nat) :
    IsGap (if t.isEmpty then [] else [⟨.text t, start, stop⟩]) := by
  split
  · exact ⟨Nat.zero_le _, List.forall_mem_nil _⟩
  · exact ⟨Nat.le_refl _, List.forall_mem_singleton.2 blank⟩

theorem begins_tokens (parsed : parse? line = some a) : Begins a.name a.tokens a.equals := by
  obtain ⟨lead, gap⟩ := blank_of_parse? parsed
  refine ⟨_, _, ⟨.operand (.variable a.name), a.lead.length, a.lead.length + a.name.length⟩, ?_,
    isGap_text lead 0 a.lead.length,
    isGap_text gap (a.lead.length + a.name.length) (a.lead.length + a.name.length + a.gap.length),
    rfl, rfl⟩
  simp only [tokens, List.append_assoc, List.singleton_append]
  rfl

theorem countP_tokens (a : Assignment) : a.tokens.countP (·.lexeme = .assign) = 1 := by
  unfold tokens
  split <;> split <;> rfl

/-- Lines that are not calculated begin with neither a name nor white space. -/
theorem parse?_of_isTextLine (kind : isTextLine line = true) : parse? line = none := by
  cases line with
  | nil => rfl
  | cons c rest =>
    have first : c = '-' ∨ c = '\'' := by
      simp only [isTextLine, restartsSum, isComment, List.isPrefixOf, Bool.or_eq_true,
        Bool.and_eq_true, beq_iff_eq] at kind
      exact kind.imp (·.1.symm) (·.1.symm)
    have begins : Text.isBlank c = false ∧ Text.isNameChar c = false := by
      rcases first with rfl | rfl <;> decide
    simp [parse?, begins]

/-- A name begins with no digit. -/
theorem IsName.head (h : IsName name) : ∀ c ∈ name.head?, Text.isDecimal c = false := by
  intro c first
  have begins := h.begins
  rw [Option.mem_def.1 first, Option.any_some, Text.isNameChar, Bool.and_eq_true,
    Bool.not_eq_true'] at begins
  exact begins.2

end Assignment

open Assignment Postfix

namespace Token

/-- The tokens of a line are those of the beginning of an assignment, if it has one, and others. -/
theorem beginning_of_scan (scanned : scan line names = .ok tokens) :
    ∃ rest, (∀ t ∈ rest, t.lexeme ≠ .assign)
      ∧ ((∃ a, parse? line = some a ∧ tokens = a.tokens ++ rest)
        ∨ parse? line = none ∧ tokens = rest) := by
  obtain ⟨rest, rfl, others⟩ := ne_assign_of_scan scanned
  refine ⟨rest, others, ?_⟩
  cases kind : isTextLine line with
  | true => exact .inr ⟨parse?_of_isTextLine kind, rfl⟩
  | false =>
    cases parsed : parse? line with
    | none => exact .inr ⟨rfl, rfl⟩
    | some a => exact .inl ⟨a, rfl, rfl⟩

theorem exists_rest_of_scan {a : Assignment} (parsed : parse? line = some a)
    (scanned : scan line names = .ok tokens) : ∃ rest, tokens = a.tokens ++ rest
      ∧ ofTokens tokens = ofTokens rest ++ [⟨.assign, some a.equals.start, some a.equals.stop⟩]
      ∧ ∀ step ∈ ofTokens rest, step.action ≠ .assign := by
  obtain ⟨rest, others, ⟨a', parsed', rfl⟩ | ⟨none_, -⟩⟩ := beginning_of_scan scanned
  · obtain rfl := Option.some.inj (parsed.symm.trans parsed')
    exact ⟨rest, rfl, ofTokens_append_of_assigning a.takeAll_tokens others,
      ne_assign_of_mem_ofTokens others⟩
  · exact nomatch parsed.symm.trans none_

/-- There is one equals sign among the tokens of a line with a target, and none in other lines. -/
theorem countP_of_scan (scanned : scan line names = .ok tokens) :
    tokens.countP (·.lexeme = .assign) = if (target? line).isSome then 1 else 0 := by
  obtain ⟨rest, others, begun⟩ := beginning_of_scan scanned
  have none_ : rest.countP (·.lexeme = .assign) = 0 := by simpa using others
  rcases begun with ⟨a, parsed, rfl⟩ | ⟨parsed, rfl⟩
  · rw [List.countP_append, a.countP_tokens, none_, target?, parsed]
    rfl
  · rw [none_, target?, parsed]
    rfl

/-- The last step of a line is an assignment if and only if the line has a target. -/
theorem lastStep_of_scan (scanned : scan line names = .ok tokens) :
    (ofTokens tokens).getLast?.any (·.action == .assign) = (target? line).isSome := by
  obtain ⟨rest, others, ⟨a, parsed, rfl⟩ | ⟨parsed, rfl⟩⟩ := beginning_of_scan scanned
  · rw [ofTokens_assignment, target?, parsed]
    rfl
  · rw [ofTokens_of_ne_assign others, target?, parsed]
    rfl

/-- Scanner, order of steps and calculation agree on whether a line assigns, and to which name. An
equals sign is among the tokens once if the line has a target, and else not at all. Whatever names
are known, the target is the variable that the line begins with; nothing before the equals sign is
left among the steps, which end with the assignment. -/
theorem assignment_agrees (scanned : scan line names = .ok tokens) :
    tokens.countP (·.lexeme = .assign) ≤ 1
      ∧ ((∃ t ∈ tokens, t.lexeme = .assign) ↔ ∃ name, target? line = some name)
      ∧ (∀ name, target? line = some name →
        (name ≠ [] ∧ (∀ c ∈ name.head?, Text.isDecimal c = false) ∧ ∀ c ∈ name.getLast?, c ≠ ' ')
        ∧ ∃ front equals, Begins name front equals
          ∧ ∀ names tokens, scan line names = .ok tokens → ∃ rest, tokens = front ++ rest
            ∧ ofTokens tokens = ofTokens rest ++ [⟨.assign, some equals.start, some equals.stop⟩]
            ∧ ∀ step ∈ ofTokens rest, step.action ≠ .assign)
      ∧ ∀ env outcome, Outcome.ofSteps env (ofTokens tokens) = .ok (some outcome) →
        (outcome.isAssignment = true ↔ ∃ name, target? line = some name) := by
  have count := countP_of_scan scanned
  refine ⟨?_, ?_, fun name found => ?_, fun env outcome evaluated => ?_⟩
  · rw [count]
    split <;> decide
  · rw [← Option.isSome_iff_exists]
    have counted : 0 < tokens.countP (·.lexeme = .assign) ↔ ∃ t ∈ tokens, t.lexeme = .assign := by
      simp [List.countP_pos_iff]
    rw [← counted, count]
    cases (target? line).isSome <;> simp
  · have isName := isName_of_target? found
    obtain ⟨a, parsed, rfl⟩ := Option.map_eq_some_iff.1 found
    exact ⟨⟨isName.plain.1, isName.head, isName.ends⟩, a.tokens, a.equals, begins_tokens parsed,
      fun names tokens scanned => exists_rest_of_scan parsed scanned⟩
  · rw [Outcome.isAssignment_eq evaluated, lastStep_of_scan scanned, Option.isSome_iff_exists]

/-- A name with a space that is known itself, and a second equals sign, which is text. -/
theorem assignment_agrees_twice :
    let line : Text := " my var = 2 = 3".toList
    ∃ tokens front equals rest, scan line [⟨"my var".toList, false⟩] = .ok tokens
      ∧ (∃ t ∈ tokens, t.lexeme = .assign) ∧ tokens.countP (·.lexeme = .assign) ≤ 1
      ∧ target? line = some "my var".toList ∧ Begins "my var".toList front equals
      ∧ tokens = front ++ rest ∧ (ofTokens rest).length = 2
      ∧ ofTokens tokens = ofTokens rest ++ [⟨.assign, some equals.start, some equals.stop⟩]
      ∧ ∀ env outcome, Outcome.ofSteps env (ofTokens tokens) = .ok (some outcome) →
        outcome.isAssignment = true := by
  intro line
  obtain ⟨tokens, scanned, steps⟩ : ∃ tokens, scan line [⟨"my var".toList, false⟩] = .ok tokens
      ∧ (ofTokens tokens).length = 3 := by decide +kernel
  have found : target? line = some "my var".toList := by decide +kernel
  obtain ⟨once, some_, named, assigns⟩ := assignment_agrees scanned
  obtain ⟨-, front, equals, begins, each⟩ := named _ found
  obtain ⟨rest, whole, ends, -⟩ := each _ _ scanned
  rw [ends, List.length_append] at steps
  refine ⟨tokens, front, equals, rest, scanned, some_.2 ⟨_, found⟩, once, found, begins, whole,
    Nat.succ.inj steps, ends, fun env outcome evaluated => ?_⟩
  exact (assigns env outcome evaluated).2 ⟨_, found⟩

end Token
end CalcSheet
