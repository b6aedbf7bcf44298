import CalcSheet.Line
import CalcSheet.Proofs.Postfix.Emitted
import CalcSheet.Proofs.Token.Occurrences

/-!
# What a line looks up

A line looks up the variables and the lines that it refers to, and nothing else. So it is evaluated
in the same way wherever the names that occur in it have the same values.
-/
namespace CalcSheet

variable {env env' : Environment} {line : Text} {names : List KnownName} {tokens : List Token}
  {steps : List Step}

/-- The names that occur in a line have the same values, or none, in two environments. -/
structure Environment.AgreeOn (line : Text) (env env' : Environment) : Prop where
  valueOf? : ∀ name, name <:+: line → env'.valueOf? name = env.valueOf? name
  resultOf? : ∀ id, Reference.text id <:+: line → env'.resultOf? id = env.resultOf? id

namespace Machine

theorem run_congr (same : ∀ s ∈ steps, ∀ m : Machine, m.step env' s.action = m.step env s.action)
    (m : Machine) : m.run env' steps = m.run env steps := by
  induction steps generalizing m with
  | nil => rfl
  | cons s steps ih =>
    obtain ⟨here, later⟩ := List.forall_mem_cons.1 same
    rw [run, run, here m]
    exact congrArg _ (funext fun m => ih later m)

theorem isInherited_step_eq :
    Postfix.IsInherited fun a => ∀ m : Machine, m.step env' a = m.step env a where
  operate _ _ := rfl
  negate _ := rfl
  matrix _ _ _ _ _ := rfl

end Machine

theorem Outcome.ofSteps_congr
    (same : ∀ s ∈ steps, ∀ m : Machine, m.step env' s.action = m.step env s.action) :
    ofSteps env' steps = ofSteps env steps := by
  have calculation : ∀ s ∈ (if steps.getLast?.any (·.action == .assign) then steps.dropLast
      else steps), ∀ m : Machine, m.step env' s.action = m.step env s.action := by
    split
    · exact fun s mem => same s (List.mem_of_mem_dropLast mem)
    · exact same
  rw [ofSteps, ofSteps, Machine.run_congr calculation]

/-- Steps of tokens that refer to nothing else are evaluated alike. -/
theorem Outcome.ofTokens_congr (agree : env.AgreeOn line env')
    (occur : ∀ token ∈ tokens, Token.OccursIn line token.lexeme) :
    ofSteps env' (Postfix.ofTokens tokens) = ofSteps env (Postfix.ofTokens tokens) := by
  have own : ∀ token ∈ tokens, ∀ a ∈ Postfix.ownAction? token.lexeme,
      ∀ m : Machine, m.step env' a = m.step env a := by
    intro token mem a found m
    have occurs := occur token mem
    cases lexeme : token.lexeme with
    | operand o =>
      rw [lexeme] at found occurs
      obtain rfl := Option.some.inj found
      rcases o with x | name | id
      · rfl
      · rw [Machine.step, Machine.step, agree.valueOf? name occurs]
      · rw [Machine.step, Machine.step, agree.resultOf? id occurs]
    | unit u | conversion u =>
      rw [lexeme] at found
      obtain rfl := Option.some.inj found
      rfl
    | _ =>
      rw [lexeme] at found
      exact nomatch found
  obtain ⟨steps, last, whole, sound, assigns⟩ :=
    Postfix.ofTokens_holds Machine.isInherited_step_eq own
  refine ofSteps_congr fun s mem m => ?_
  rw [whole] at mem
  rcases List.mem_append.1 mem with mem | mem
  · exact sound s mem m
  · rw [assigns s (Option.mem_toList.1 mem)]
    rfl

/-- What is calculated on a line are the steps of its tokens. -/
theorem Line.parts_of_evaluate {names : List KnownName} {tokens : List Token}
    {outcome? : Option Outcome} (evaluated : evaluate env names line = .ok (tokens, outcome?)) :
    Token.scan line names = .ok tokens
      ∧ Outcome.ofSteps env (Postfix.ofTokens tokens) = .ok outcome? := by
  obtain ⟨_, scanned, evaluated⟩ := bind_eq_ok evaluated
  obtain ⟨_, calculation, done⟩ := bind_eq_ok evaluated
  obtain ⟨rfl, rfl⟩ := Prod.mk.inj (Except.ok.inj done)
  exact ⟨mapError_eq_ok scanned, mapError_eq_ok calculation⟩

/-- A line that is scanned in the same way is evaluated in the same way wherever the names that
occur in it have the same values. -/
theorem Line.evaluate_congr {vars vars' : List Text} {ids ids' : List LineId}
    (agree : env.AgreeOn line env')
    (scanned : Token.scan line (Token.knownNames vars' ids')
      = Token.scan line (Token.knownNames vars ids)) :
    evaluate env' (Token.knownNames vars' ids') line
      = evaluate env (Token.knownNames vars ids) line := by
  rw [evaluate, evaluate, scanned]
  cases tokens : Token.scan line (Token.knownNames vars ids) with
  | error fault => rfl
  | ok tokens' =>
    have outcome := Outcome.ofTokens_congr agree (Token.occursIn_of_scan tokens)
    simp only [Except.mapError, bind, Except.bind, outcome]

end CalcSheet
