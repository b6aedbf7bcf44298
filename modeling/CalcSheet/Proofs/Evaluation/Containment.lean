import CalcSheet.Proofs.Evaluation.Finite
import CalcSheet.Proofs.Evaluation.Stacks
import CalcSheet.Proofs.Token.Faults

/-!
# Failures that stay inside a line

Whatever a line says, the values on its stack are numbers and matrices with cells, and no step meets
a matrix with a cell too few. Two failures get out of the line, and they need units with enormous
exponents: one cannot be written in the message of a fault, and a factor that has become zero makes
numbers infinite, which cannot be counted.
-/
namespace CalcSheet
open Machine

variable {p q : Quantity → Prop} {env : Environment} {steps : List Step} {tokens : List Token}
  {line : Text} {names : List KnownName}

/-! ### Kinds of values -/

theorem Value.Holds.imp {v : Value} (h : v.Holds p) (more : ∀ x ∈ v.cells, p x → q x) :
    v.Holds q := by
  cases v with
  | number x => exact more x List.mem_cons_self h
  | matrix m => exact ⟨h.rows, h.cols, fun x mem => more x mem (QuantityMatrix.Holds.cells h x mem)⟩

theorem Machine.Holds.imp {m : Machine} (h : m.Holds p) (more : ∀ x, p x → q x) : m.Holds q :=
  fun v mem => (h v mem).imp fun x _ => more x

/-- Values are numbers and matrices with cells, and if they are finite at all, they are so on the
assumption. -/
theorem Environment.Holds.assuming {known : Prop} (shapes : env.Holds fun _ => True)
    (h : known → env.Holds p) : env.Holds (known → p ·) where
  bindings b mem v value := (shapes.bindings b mem v value).imp fun x cell _ hk =>
    ((h hk).bindings b mem v value).cells x cell
  results r mem v value := (shapes.results r mem v value).imp fun x cell _ hk =>
    ((h hk).results r mem v value).cells x cell

theorem Action.Holds.imp {unit unit' : Option PhysicalUnit → Prop} {a : Action} (h : a.Holds unit)
    (more : ∀ u, unit u → unit' u) : a.Holds unit' := by
  cases a with
  | attach u => exact more u h
  | convert u => exact more u h
  | _ => exact h

/-! ### Steps of lines -/

namespace Token

theorem ReadsUnit.isFinite {t : Text} {unit : Option PhysicalUnit} (h : ReadsUnit t unit) :
    ∀ u ∈ unit, u.factor.IsFinite := by
  rintro u rfl
  exact PhysicalUnit.parse_isFinite h

theorem ownAction?_operator? {c : Char} {lexeme : Lexeme} (found : operator? c = some lexeme) :
    Postfix.ownAction? lexeme = none := by
  unfold operator? at found
  split at found <;> cases found <;> rfl

/-- The units that a token brings into a calculation are read from its text. -/
theorem Reads.action_holds {unit : Option PhysicalUnit → Prop} {t : Text} {lexeme : Lexeme}
    (h : Reads t lexeme) (each : ∀ part u, part <:+: t → ReadsUnit part u → unit u) :
    ∀ a ∈ Postfix.ownAction? lexeme, a.Holds unit := by
  intro a own
  cases h with
  | unit reads =>
    obtain rfl := Option.some.inj own
    exact each _ _ (List.infix_refl _) reads
  | conversion blank some reads =>
    obtain rfl := Option.some.inj own
    exact each _ _ (List.suffix_append _ _).isInfix reads
  | sign found =>
    rw [ownAction?_operator? found] at own
    exact nomatch own
  | text | assign => exact nomatch own
  | name | reference | number =>
    obtain rfl := Option.some.inj own
    trivial

theorem spelling_infix (line : Text) (token : Token) : token.spelling line <:+: line :=
  (List.take_prefix _ _).isInfix.trans (List.drop_suffix _ line).isInfix

end Token

/-- The steps of a line without an assignment in last place. -/
def calculation (steps : List Step) : List Step :=
  if steps.getLast?.any (·.action == .assign) then steps.dropLast else steps

theorem calculation_append {last : Option Step} (others : ∀ step ∈ steps, step.action ≠ .assign)
    (assigns : ∀ step ∈ last, step.action = .assign) :
    calculation (steps ++ last.toList) = steps := by
  cases last with
  | some step => simp [calculation, assigns step rfl]
  | none =>
    have other : steps.getLast?.any (·.action == .assign) = false := by
      cases final : steps.getLast? with
      | none => rfl
      | some step => simpa using others step (List.mem_of_getLast? final)
    rw [Option.toList_none, List.append_nil, calculation, other]
    rfl

/-- The steps of a line are operators, matrices with cells, and units that are read in the line. -/
theorem calculation_holds_of_reads {unit : Option PhysicalUnit → Prop}
    (scanned : Token.scan line names = .ok tokens)
    (each : ∀ part u, part <:+: line → Token.ReadsUnit part u → unit u) :
    ∀ step ∈ calculation (Postfix.ofTokens tokens), step.action.Holds unit := by
  obtain ⟨-, reads⟩ := Token.reads_of_scan scanned
  obtain ⟨steps, last, whole, sound, assigns⟩ :=
    Postfix.ofTokens_holds Action.isInherited_holds fun t mem => (reads t mem).action_holds
      fun part u inside => each part u (inside.trans (Token.spelling_infix line t))
  rw [whole, calculation_append (fun step mem => (sound step mem).ne_assign) assigns]
  exact sound

/-- The units in the steps of a line are finite. -/
theorem calculation_holds (scanned : Token.scan line names = .ok tokens) :
    ∀ step ∈ calculation (Postfix.ofTokens tokens),
      step.action.Holds fun unit => ∀ u ∈ unit, u.factor.IsFinite :=
  calculation_holds_of_reads scanned fun _ _ _ reads => reads.isFinite

/-! ### Outcomes -/

/-- The only breakdown of a fault that is contained comes from reporting it. -/
theorem Fault.IsContained.breakdown? {fault : Fault} (h : fault.IsContained) :
    fault.breakdown? = if ∀ u ∈ fault.units, u.IsWritable then none else some .unwritable := by
  cases fault with
  | layout cause => exact h.elim
  | infiniteCount => exact h.elim
  | _ => rfl

theorem Outcome.ofSteps_eq (env : Environment) (steps : List Step) :
    ofSteps env steps = match initial.run env (calculation steps) with
      | .error fault =>
          match fault.breakdown? with
          | some cause => .error cause
          | none => .ok none
      | .ok ⟨[v], converted, operated⟩ =>
          .ok (some ⟨v, steps.getLast?.any (·.action == .assign), converted, operated⟩)
      | .ok _ => .ok none := rfl

/-- A result is the one value that is left on the stack. -/
theorem Outcome.ofSteps_of_run {m : Machine} (ran : initial.run env (calculation steps) = .ok m) :
    ∃ outcome?, ofSteps env steps = .ok outcome? ∧ ∀ o ∈ outcome?, m.stack = [o.result] := by
  rw [ofSteps_eq, ran]
  obtain ⟨stack, converted, operated⟩ := m
  rcases stack with _ | ⟨v, _ | ⟨w, rest⟩⟩
  · exact ⟨none, rfl, by simp⟩
  · exact ⟨some _, rfl, by simp⟩
  · exact ⟨none, rfl, by simp⟩

/-- A result is what the machine ends with. -/
theorem Outcome.run_eq_of_ofSteps {o : Outcome} (evaluated : ofSteps env steps = .ok (some o)) :
    initial.run env (calculation steps) = .ok ⟨[o.result], o.converted, o.operated⟩ := by
  rw [ofSteps_eq] at evaluated
  split at evaluated
  · split at evaluated <;> cases evaluated
  · next ran =>
    obtain rfl := Option.some.inj (Except.ok.inj evaluated)
    exact ran
  · cases evaluated

theorem Outcome.run_of_ofSteps {o : Outcome} (evaluated : ofSteps env steps = .ok (some o)) :
    ∃ m, initial.run env (calculation steps) = .ok m ∧ m.stack = [o.result] :=
  ⟨_, run_eq_of_ofSteps evaluated, rfl⟩

/-- After a fault that is contained there is no result, unless a unit cannot be written. -/
theorem Outcome.ofSteps_of_fault {fault : Fault}
    (ran : initial.run env (calculation steps) = .error fault) (contained : fault.IsContained) :
    ofSteps env steps = .ok none
      ∨ (ofSteps env steps = .error .unwritable ∧ ∃ u ∈ fault.units, ¬ u.IsWritable) := by
  rw [ofSteps_eq, ran]
  dsimp only
  rw [contained.breakdown?]
  by_cases writable : ∀ u ∈ fault.units, u.IsWritable
  · rw [if_pos writable]
    exact .inl rfl
  · rw [if_neg writable]
    exact .inr ⟨rfl, by simpa using writable⟩

/-- What holds of every calculation on a line, and what its outcome can be. -/
structure Contains (env : Environment) (tokens : List Token) (steps : List Step) : Prop where
  /-- On the stack there are numbers, and matrices with at least one cell. -/
  shapes : ∀ m, Reaches env steps m → m.Holds fun _ => True
  /-- Steps do not fail for a cell too few, and no step is an assignment. -/
  faults : ∀ fault, Fails env steps fault → fault.IsContained ∨ fault = .infiniteCount
  /-- Numbers stay finite, and no infinite one is counted, unless the factor of a unit is zero. -/
  finite : env.Holds Quantity.IsFinite →
    (∀ m, Reaches env steps m → m.Holds Quantity.IsInvertible) →
    (∀ m, Reaches env steps m → m.Holds Quantity.IsFinite) ∧ ¬ Fails env steps .infiniteCount
  /-- The one value that is left is the result, and otherwise there is none, unless an infinite
  number is counted or a fault is reported with a unit that cannot be written. -/
  outcome : (∃ outcome?, Outcome.ofSteps env (Postfix.ofTokens tokens) = .ok outcome?
      ∧ ∀ o ∈ outcome?, ∃ m, Reaches env steps m ∧ m.stack = [o.result])
    ∨ (Outcome.ofSteps env (Postfix.ofTokens tokens) = .error .infiniteCount
      ∧ Fails env steps .infiniteCount)
    ∨ (Outcome.ofSteps env (Postfix.ofTokens tokens) = .error .unwritable
      ∧ ∃ fault, Fails env steps fault ∧ ∃ u ∈ fault.units, ¬ u.IsWritable)

/-- Every line contains its failures, but for the counting of infinite numbers and the writing of
enormous exponents. -/
theorem contains_of_scan (scanned : Token.scan line names = .ok tokens)
    (shapes : env.Holds fun _ => True) :
    Contains env tokens (calculation (Postfix.ofTokens tokens)) := by
  generalize whole : calculation (Postfix.ofTokens tokens) = steps
  -- what all that is known of numbers depends on
  let known : Prop := env.Holds Quantity.IsFinite
    ∧ ∀ m, Reaches env steps m → m.Holds Quantity.IsInvertible
  have sound : ∀ step ∈ steps, step.action.Holds fun unit => known → ∀ u ∈ unit,
      u.factor.IsFinite := fun step mem =>
    (calculation_holds scanned step (whole ▸ mem)).imp fun _ finite _ => finite
  have values : env.Holds (known → Quantity.IsFinite ·) := shapes.assuming (·.1)
  have inverses : ∀ m, Reaches env steps m → ∀ v ∈ m.stack, ∀ q ∈ v.cells,
      known → q.IsInvertible := fun m reached v mem q cell hk => (hk.2 m reached v mem).cells q cell
  have held (m : Machine) (reached : Reaches env steps m) : m.Holds (known → Quantity.IsFinite ·) :=
    holds_of_reaches (cellArithmetic known) values sound inverses reached
  have allowed (fault : Fault) (failed : Fails env steps fault) : fault.IsAllowed known :=
    fault_of_fails (cellArithmetic known) values sound inverses failed
  refine ⟨fun m reached => (held m reached).imp fun _ _ => trivial, fun fault failed =>
    (allowed fault failed).imp id And.left, fun finite invertible => ?_, ?_⟩
  · have hk : known := ⟨finite, invertible⟩
    refine ⟨fun m reached => (held m reached).imp fun _ h => h hk, fun failed => ?_⟩
    rcases allowed _ failed with contained | ⟨-, unknown⟩
    · exact contained
    · exact unknown hk
  · cases ran : initial.run env steps with
    | ok m =>
      obtain ⟨outcome?, found, result⟩ := Outcome.ofSteps_of_run (whole.symm ▸ ran)
      exact .inl ⟨outcome?, found, fun o mem => ⟨m, ⟨steps, List.prefix_rfl, ran⟩, result o mem⟩⟩
    | error fault =>
      have failed := fails_of_run ran
      rcases allowed fault failed with contained | ⟨rfl, -⟩
      · rcases Outcome.ofSteps_of_fault (whole.symm ▸ ran) contained with none | ⟨breaks, units⟩
        · exact .inl ⟨_, none, by simp⟩
        · exact .inr (.inr ⟨breaks, fault, failed, units⟩)
      · refine .inr (.inl ⟨?_, failed⟩)
        rw [Outcome.ofSteps_eq, whole, ran]
        rfl

/-- A product of a matrix with a variable that stands for another one. -/
theorem contains_of_scan_product :
    let env : Environment := ⟨[(['x'], some (.matrix ⟨2, 1, [.zero, .zero], rfl⟩))], []⟩
    (env.Holds fun _ => True) ∧ ∃ tokens,
      Token.scan ['[', '1', ',', '2', ' ', 'm', ']', '*', 'x'] [⟨['x'], false⟩] = .ok tokens
        ∧ Contains env tokens (calculation (Postfix.ofTokens tokens)) := by
  intro env
  have shapes : env.Holds fun _ => True := by
    refine ⟨fun b mem v value => ?_, List.forall_mem_nil _⟩
    obtain rfl := List.mem_singleton.1 mem
    obtain rfl := Option.some.inj value
    exact ⟨by decide, by decide, fun _ _ => trivial⟩
  have succeeds : (Token.scan ['[', '1', ',', '2', ' ', 'm', ']', '*', 'x']
      [⟨['x'], false⟩]).toBool = true := by decide +kernel
  refine ⟨shapes, ?_⟩
  cases scanned : Token.scan ['[', '1', ',', '2', ' ', 'm', ']', '*', 'x'] [⟨['x'], false⟩] with
  | error fault =>
    rw [scanned] at succeeds
    exact nomatch succeeds
  | ok tokens => exact ⟨tokens, rfl, contains_of_scan scanned shapes⟩

/-- Not every line contains its failures: in `(1 m)^(10^5000) + 1` the exponent of the unit has too
many digits to be written in a message. -/
theorem not_forall_contained :
    ¬ ∀ (env : Environment) (line : Text) (names : List KnownName) (tokens : List Token),
      Token.scan line names = .ok tokens → env.Holds Quantity.IsFinite →
      ∃ outcome?, Outcome.ofSteps env (Postfix.ofTokens tokens) = .ok outcome? := by
  intro always
  let line : Text := ['(', '1', ' ', 'm', ')', '^', '(', '1', '0', '^', '5', '0', '0', '0', ')',
    ' ', '+', ' ', '1']
  have succeeds : (Token.scan line []).toBool = true := by decide +kernel
  have fails : ∀ tokens, Token.scan line [] = .ok tokens →
      (Outcome.ofSteps ⟨[], []⟩ (Postfix.ofTokens tokens)).toBool = false := by decide +kernel
  cases scanned : Token.scan line [] with
  | error fault =>
    rw [scanned] at succeeds
    exact nomatch succeeds
  | ok tokens =>
    obtain ⟨outcome?, contained⟩ := always ⟨[], []⟩ line [] tokens scanned
      ⟨List.forall_mem_nil _, List.forall_mem_nil _⟩
    have broken := fails tokens scanned
    rw [contained] at broken
    exact nomatch broken

end CalcSheet
