import CalcSheet.Evaluation
import CalcSheet.Proofs.Postfix.Outline

/-!
# Evaluation under other line identifiers

The result of a line depends on the results of other lines, but not on the identifiers that it
refers to them by. A fault may name another line, but it stays in the line or leaves it as before.
-/
namespace CalcSheet
variable {g : LineId → LineId} {env env' : Environment} {steps steps' : List Step}

/-- The same variables, and the same result for a line and for the one that `g` names instead. -/
structure Environment.Agrees (g : LineId → LineId) (env env' : Environment) : Prop where
  valueOf? : ∀ name, env'.valueOf? name = env.valueOf? name
  resultOf? : ∀ line, env'.resultOf? (g line) = env.resultOf? line

/-- What can be told about a failed calculation outside of its line. -/
def contained (x : Except Fault α) : Except (Option Breakdown) α := x.mapError Fault.breakdown?

theorem contained_bind (x : Except Fault α) (f : α → Except Fault β) :
    contained (x >>= f) = contained x >>= fun a => contained (f a) := by
  cases x <;> rfl

namespace Machine

theorem step_rename (agrees : env.Agrees g env') (m : Machine) (a : Action) :
    contained (m.step env' (a.rename g)) = contained (m.step env a) := by
  cases a with
  | push o =>
    rcases o with x | name | line
    · rfl
    · simp only [Action.rename, Operand.rename, step, agrees.valueOf?]
    · simp only [Action.rename, Operand.rename, step, agrees.resultOf?]
      cases env.resultOf? line <;> rfl
  | _ => rfl

theorem run_rename (agrees : env.Agrees g env') (m : Machine)
    (same : steps'.map (·.action) = steps.map (·.action.rename g)) :
    contained (m.run env' steps') = contained (m.run env steps) := by
  induction steps generalizing steps' m with
  | nil =>
    obtain rfl := List.map_eq_nil_iff.1 same
    rfl
  | cons s steps ih =>
    obtain ⟨s', others, rfl, action, rest⟩ := List.map_eq_cons_iff.1 same
    change contained (m.step env' s'.action >>= fun m => run env' m others)
      = contained (m.step env s.action >>= fun m => run env m steps)
    rw [contained_bind, contained_bind, action, step_rename agrees]
    simp only [ih _ rest]

end Machine

theorem Action.rename_beq_assign (a : Action) : (a.rename g == .assign) = (a == .assign) := by
  cases a <;> rfl

/-- Steps that name other lines with the same results have the same result. -/
theorem Outcome.ofSteps_rename (agrees : env.Agrees g env')
    (same : steps'.map (·.action) = steps.map (·.action.rename g)) :
    Outcome.ofSteps env' steps' = Outcome.ofSteps env steps := by
  have last (steps : List Step) : steps.getLast?.any (·.action == .assign)
      = (steps.map (·.action)).getLast?.any (· == .assign) := by
    rw [List.getLast?_map, Option.any_map]
  have assignment : steps'.getLast?.any (·.action == .assign)
      = steps.getLast?.any (·.action == .assign) := by
    rw [last, same, List.getLast?_map, Option.any_map]
    simp only [Action.rename_beq_assign]
  have calculation : (if steps'.getLast?.any (·.action == .assign) then steps'.dropLast
        else steps').map (·.action)
      = (if steps.getLast?.any (·.action == .assign) then steps.dropLast
        else steps).map (·.action.rename g) := by
    rw [assignment]
    split
    · rw [List.map_dropLast, List.map_dropLast, same]
    · exact same
  have run := Machine.run_rename agrees .initial calculation
  simp only [ofSteps, assignment] at run ⊢
  generalize Machine.run env' .initial _ = left at run
  generalize Machine.run env .initial _ = right at run
  cases left with
  | ok m' =>
    cases right with
    | ok m => rw [Except.ok.inj run]
    | error fault => exact nomatch run
  | error fault' =>
    cases right with
    | ok m => exact nomatch run
    | error fault =>
      have breakdown : fault'.breakdown? = fault.breakdown? := Except.error.inj run
      simp only [breakdown]

theorem Action.rename_id (a : Action) : a.rename id = a := by
  cases a with
  | push o => cases o <;> rfl
  | _ => rfl

/-- Tokens of the same outline have the same result. -/
theorem Outcome.ofTokens_rename (agrees : env.Agrees g env') {tokens tokens' : List Token}
    (same : tokens'.map (Token.outline id) = tokens.map (Token.outline g)) :
    Outcome.ofSteps env' (Postfix.ofTokens tokens')
      = Outcome.ofSteps env (Postfix.ofTokens tokens) := by
  have outlines : (Postfix.ofTokens tokens').map (Step.outline id)
      = (Postfix.ofTokens tokens).map (Step.outline g) := by
    rw [Postfix.map_outline_ofTokens, Postfix.map_outline_ofTokens, same]
  have actions := congrArg (List.map Step.action) outlines
  simp only [List.map_map, Function.comp_def, Step.outline, Action.rename_id] at actions
  exact ofSteps_rename agrees actions

end CalcSheet
