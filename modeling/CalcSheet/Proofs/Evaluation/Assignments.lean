import CalcSheet.Proofs.Evaluation.Lookups
import CalcSheet.Proofs.Postfix.Run
import CalcSheet.Proofs.Token.Parts

/-!
# Lines that assign and lines of one operand

A line that begins with a name and an equals sign is an assignment, whatever follows, once it has a
result; no other line is one. A line of one operand has the value of the operand as its result.
-/
namespace CalcSheet

variable {env : Environment} {line : Text} {names : List KnownName} {tokens : List Token}
  {steps : List Step} {outcome : Outcome}

namespace Token
variable {begun : Bool} {previous : Option Char} {c : Char} {t rest : Text} {m : Match}
  {fuel position : Nat}

/-- A known name stands for a variable or a line, and not for a number. -/
theorem operand_of_knownName? (found : knownName? names previous t = .ok (some m)) :
    ∃ o, m.1 = .operand o ∧ ∀ x, o ≠ .number x := by
  unfold knownName? at found
  split at found
  · exact nomatch found
  · rw [nameAt?_eq_find?] at found
    cases name : names.find? (standsAt t) with
    | none =>
      rw [name] at found
      exact nomatch found
    | some n =>
      rw [name, Option.mapM_some] at found
      obtain ⟨_, read, same⟩ := map_eq_ok found
      obtain rfl := Option.some.inj same
      unfold readName at read
      split at read
      · exact nomatch read
      · split at read
        · split at read
          · exact nomatch read
          · split at read
            · exact nomatch read
            · obtain rfl := Except.ok.inj read
              exact ⟨_, rfl, by simp⟩
        · obtain rfl := Except.ok.inj read
          exact ⟨_, rfl, by simp⟩

/-- An equals sign that does not end the beginning of an assignment is text. -/
theorem ne_assign_of_next (matched : next names begun previous c rest = .ok m) :
    m.1 ≠ .assign := by
  intro assigns
  have reads := (next_fits matched).2
  rw [assigns] at reads
  obtain rfl : c = '=' := by
    have sign {t : Text} (reads : Reads t .assign) : t = ['='] := by
      cases reads with
      | sign found =>
        unfold operator? at found
        split at found <;> exact nomatch found
      | assign => rfl
    have begins := sign reads
    cases taken : m.2 with
    | zero => simp [taken] at begins
    | succ n =>
      rw [taken, List.take_succ_cons] at begins
      exact (List.cons.inj begins).1
  rw [next_eq_map_knownName? (by decide) (by decide) (by decide),
    number?_eq_none (by decide) (by decide)] at matched
  obtain ⟨name?, name, rfl⟩ := map_eq_ok matched
  cases name? with
  | none => exact nomatch assigns
  | some m =>
    obtain ⟨o, same, -⟩ := operand_of_knownName? name
    rw [Option.getD_some, same] at assigns
    exact nomatch assigns

theorem ne_assign_of_scanFrom
    (scanned : scanFrom names fuel begun previous position t = .ok tokens) :
    ∀ token ∈ tokens, token.lexeme ≠ .assign := by
  induction fuel generalizing begun previous position t tokens with
  | zero =>
    obtain rfl : [] = tokens := Except.ok.inj scanned
    exact List.forall_mem_nil _
  | succ fuel ih =>
    cases t with
    | nil =>
      obtain rfl : [] = tokens := Except.ok.inj scanned
      exact List.forall_mem_nil _
    | cons c rest =>
      rw [scanFrom_cons] at scanned
      obtain ⟨m, matched, scanned⟩ := bind_eq_ok scanned
      obtain ⟨others, scannedRest, rfl⟩ := map_eq_ok scanned
      exact List.forall_mem_cons.2 ⟨ne_assign_of_next matched, ih scannedRest⟩

/-- Behind the beginning of an assignment, if there is one, no token is its equals sign. -/
theorem ne_assign_of_scan (scanned : scan line names = .ok tokens) :
    ∃ others, tokens = (if isTextLine line then [] else
        ((Assignment.parse? line).map Assignment.tokens).getD []) ++ others
      ∧ ∀ token ∈ others, token.lexeme ≠ .assign := by
  unfold scan at scanned
  split at scanned
  · next plain =>
    obtain rfl := Except.ok.inj scanned
    exact ⟨_, by rw [if_pos plain, List.nil_append], by simp⟩
  · next calculated =>
    dsimp only at scanned
    rw [if_neg calculated]
    split at scanned
    · next noAssignment =>
      rw [noAssignment]
      exact ⟨tokens, rfl, ne_assign_of_scanFrom scanned⟩
    · next a parsed =>
      obtain ⟨others, scannedRest, done⟩ := bind_eq_ok scanned
      obtain rfl := Except.ok.inj done
      rw [parsed]
      exact ⟨others, rfl, ne_assign_of_scanFrom scannedRest⟩

end Token

/-- An assignment begins with a name and ends with the equals sign. -/
theorem Assignment.lexeme_of_mem_tokens {a : Assignment} {t : Token} (mem : t ∈ a.tokens) :
    (∃ u, t.lexeme = .text u) ∨ (∃ name, t.lexeme = .operand (.variable name))
      ∨ t.lexeme = .assign := by
  simp only [Assignment.tokens, List.mem_append] at mem
  obtain ((mem | mem) | mem) | mem := mem
  · split at mem
    · cases mem
    · obtain rfl := List.mem_singleton.1 mem
      exact .inl ⟨a.lead, rfl⟩
  · obtain rfl := List.mem_singleton.1 mem
    exact .inr (.inl ⟨a.name, rfl⟩)
  · split at mem
    · cases mem
    · obtain rfl := List.mem_singleton.1 mem
      exact .inl ⟨a.gap, rfl⟩
  · obtain rfl := List.mem_singleton.1 mem
    exact .inr (.inr rfl)

/-- The equals sign of an assignment. -/
def Assignment.equals (a : Assignment) : Token :=
  ⟨.assign, a.lead.length + a.name.length + a.gap.length,
    a.lead.length + a.name.length + a.gap.length + 1⟩

/-- The tokens before an equals sign do not matter to what follows it. -/
theorem Assignment.takeAll_tokens (a : Assignment) : Postfix.takeAll .initial a.tokens
    = .ok { Postfix.State.initial with
      assignment := some ⟨.assign, some a.equals.start, some a.equals.stop⟩ } := by
  unfold Assignment.tokens
  split <;> split <;> rfl

/-- The last step of a line that begins as an assignment is the assignment. -/
theorem Postfix.ofTokens_assignment (a : Assignment) (rest : List Token) :
    (ofTokens (a.tokens ++ rest)).getLast?.any (·.action == .assign) = true := by
  let step : Step := ⟨.assign, some a.equals.start, some a.equals.stop⟩
  have taken : takeAll .initial a.tokens = .ok { State.initial with assignment := some step } :=
    a.takeAll_tokens
  have inherited : IsInherited fun _ => True :=
    ⟨fun _ => trivial, trivial, fun _ _ _ _ => trivial⟩
  have begun : ({ State.initial with assignment := some step } : State).assignment.isSome := rfl
  have final : (run .initial (a.tokens ++ rest)).1.Holds fun _ => True :=
    holds_run inherited State.holds_initial fun _ _ _ _ => trivial
  have assigns := isSome_assignment_run begun rest
  rw [← run_append_of_takeAll taken] at assigns
  obtain ⟨last, found⟩ := Option.isSome_iff_exists.1 assigns
  rw [ofTokens, found, Option.toList_some, List.getLast?_concat, Option.any_some,
    final.assignment last found]
  rfl

/-- Without an equals sign among the tokens, no step is an assignment. -/
theorem Postfix.ofTokens_of_ne_assign (others : ∀ t ∈ tokens, t.lexeme ≠ .assign) :
    (ofTokens tokens).getLast?.any (·.action == .assign) = false := by
  have final := holds_ne_assign_run tokens
  have none : (run .initial tokens).1.assignment = none := assignment_run others
  rw [ofTokens, none, Option.toList_none, List.append_nil]
  cases last : (run .initial tokens).1.outermost.flush.output.getLast? with
  | none => rfl
  | some step =>
    simpa using (final.outermost.flush isInherited_ne_assign) step (List.mem_of_getLast? last)

theorem Outcome.isAssignment_eq (evaluated : ofSteps env steps = .ok (some outcome)) :
    outcome.isAssignment = steps.getLast?.any (·.action == .assign) := by
  unfold ofSteps at evaluated
  dsimp only at evaluated
  split at evaluated
  · split at evaluated
    · exact nomatch evaluated
    · exact nomatch evaluated
  · obtain rfl := Option.some.inj (Except.ok.inj evaluated)
    rfl
  · exact nomatch evaluated

namespace Line

theorem isAssignment_of_target? {n : Text} (calculated : isTextLine line = false)
    (target : Assignment.target? line = some n)
    (evaluated : evaluate env names line = .ok (tokens, some outcome)) :
    outcome.isAssignment = true := by
  obtain ⟨a, parsed, -⟩ := Option.map_eq_some_iff.1 target
  obtain ⟨scanned, calculation⟩ := parts_of_evaluate evaluated
  simp only [Token.scan, calculated, Bool.false_eq_true, ↓reduceIte, parsed] at scanned
  obtain ⟨others, -, whole⟩ := bind_eq_ok scanned
  obtain rfl := Except.ok.inj whole
  rw [Outcome.isAssignment_eq calculation]
  exact Postfix.ofTokens_assignment a others

/-- A line whose result is assigned begins with a name to assign it to. -/
theorem target?_of_isAssignment (calculated : isTextLine line = false)
    (evaluated : evaluate env names line = .ok (tokens, some outcome))
    (assigns : outcome.isAssignment = true) : ∃ n, Assignment.target? line = some n := by
  obtain ⟨scanned, calculation⟩ := parts_of_evaluate evaluated
  rw [Outcome.isAssignment_eq calculation] at assigns
  obtain ⟨others, rfl, noEquals⟩ := Token.ne_assign_of_scan scanned
  rw [calculated] at assigns
  cases parsed : Assignment.parse? line with
  | some a => exact ⟨a.name, by rw [Assignment.target?, parsed]; rfl⟩
  | none =>
    rw [parsed] at assigns
    exact absurd assigns (by simp [Postfix.ofTokens_of_ne_assign noEquals])

/-- A line of one operand, with white space around it or none, has the value of the operand. -/
theorem evaluate_operand {o : Operand} {v : Value} (scanned : Token.scan line names = .ok tokens)
    (single : (tokens.filter (!·.lexeme.isBlank)).map (·.lexeme) = [.operand o])
    (known : ∀ m : Machine, m.step env (.push o) = .ok { m with stack := v :: m.stack }) :
    evaluate env names line = .ok (tokens, some ⟨v, false, false, false⟩) := by
  obtain ⟨token, others, whole, lexeme, rest⟩ := List.map_eq_cons_iff.1 single
  obtain rfl := List.map_eq_nil_iff.1 rest
  have steps : Postfix.ofTokens tokens = [⟨.push o, some token.start, some token.stop⟩] := by
    have taken := Postfix.State.take_operand (s := .initial) lexeme rfl
    rw [← Postfix.ofTokens_filter_blank, whole, Postfix.ofTokens, Postfix.run, taken]
    rfl
  have ran : Outcome.ofSteps env [⟨.push o, some token.start, some token.stop⟩]
      = .ok (some ⟨v, false, false, false⟩) := by
    have other : ([⟨.push o, some token.start, some token.stop⟩] : List Step).getLast?.any
        (·.action == .assign) = false := rfl
    simp only [Outcome.ofSteps, other, Bool.false_eq_true, ↓reduceIte, Machine.run, known]
    rfl
  simp only [evaluate, scanned, Except.mapError, bind, Except.bind, steps, ran]
  rfl

end Line
end CalcSheet
