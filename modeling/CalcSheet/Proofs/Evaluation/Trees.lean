import CalcSheet.Proofs.Success
import CalcSheet.Proofs.Syntax.Tree

/-!
# Evaluation on a stack computes the value of a tree

The steps of a tree, run above any stack, leave the value of the tree on it, or fail with the fault
of the value. A line made of them has this value as its result.
-/
namespace CalcSheet
namespace Machine

@[simp] theorem run_nil (env : Environment) (m : Machine) : run env m [] = .ok m := rfl

theorem run_cons (env : Environment) (m : Machine) (s : Step) (rest : List Step) :
    run env m (s :: rest) = (m.step env s.action >>= fun m => run env m rest) := rfl

/-- A machine that has finished with some values on top of the stack, the last one uppermost. -/
def finish (m : Machine) (values : List Value) (converted operated : Bool) : Machine :=
  ⟨values.reverse ++ m.stack, m.converted || converted, m.operated || operated⟩

@[simp] theorem finish_nil (m : Machine) : m.finish [] false false = m := by simp [finish]

theorem finish_finish (m : Machine) (xs ys : List Value) (c c' o o' : Bool) :
    (m.finish xs c o).finish ys c' o' = m.finish (xs ++ ys) (c || c') (o || o') := by
  simp [finish, Bool.or_assoc]

/-- Above any stack and whatever follows, the steps push the values and raise the flags. -/
def Computes (env : Environment) (steps : List Step) (values : Except Fault (List Value))
    (converted operated : Bool) : Prop :=
  ∀ (m : Machine) (rest : List Step), run env m (steps ++ rest) =
    (values >>= fun vs => run env (m.finish vs converted operated) rest)

/-- The one value of a calculation, as a list. -/
def one (x : Except Fault Value) : Except Fault (List Value) := (fun v => [v]) <$> x

@[simp] theorem one_bind (x : Except Fault Value) (f : List Value → Except Fault α) :
    one x >>= f = x >>= fun v => f [v] := by
  simp [one]

namespace Computes
variable {env : Environment} {s s' : List Step} {x y : Except Fault Value} {c c' o o' : Bool}
  {last : Step}

theorem nil : Computes env [] (pure []) false false := by
  intro m rest
  simp

theorem append {xs ys : Except Fault (List Value)} (first : Computes env s xs c o)
    (second : Computes env s' ys c' o') :
    Computes env (s ++ s') (do let us ← xs; let vs ← ys; pure (us ++ vs))
      (c || c') (o || o') := by
  intro m rest
  have later (us : List Value) : run env (m.finish us c o) (s' ++ rest)
      = (ys >>= fun vs => run env (m.finish (us ++ vs) (c || c') (o || o')) rest) := by
    rw [second]
    simp only [finish_finish]
  rw [List.append_assoc, first]
  simp [later]

/-- Steps for each element of a list, one after the other. -/
theorem flatMap {ι : Type} {f : ι → List Step} {g : ι → Except Fault (List Value)}
    {c o : ι → Bool} (h : ∀ i, Computes env (f i) (g i) (c i) (o i)) (is : List ι) :
    Computes env (is.flatMap f) (List.flatten <$> is.mapM g) (is.any c) (is.any o) := by
  induction is with
  | nil =>
    have : List.flatten <$> ([] : List ι).mapM g = pure [] := by simp
    rw [this]
    exact nil
  | cons i is ih =>
    have : List.flatten <$> (i :: is).mapM g
        = (do let us ← g i; let vs ← List.flatten <$> is.mapM g; pure (us ++ vs)) := by
      simp [List.mapM_cons]
    rw [this]
    exact (h i).append ih

/-- An action on the topmost value. -/
theorem unary (operand : Computes env s (one x) c o) {f : Value → Except Fault Value}
    (act : ∀ (m : Machine) (v : Value), (m.finish [v] c o).step env last.action
      = (f v >>= fun w => pure (m.finish [w] c' o'))) :
    Computes env (s ++ [last]) (one (x >>= f)) c' o' := by
  intro m rest
  rw [List.append_assoc, operand]
  simp [run_cons, act]

/-- An action on the two topmost values. -/
theorem binary (left : Computes env s (one x) c o) (right : Computes env s' (one y) c' o')
    {f : Value → Value → Except Fault Value}
    (act : ∀ (m : Machine) (v w : Value), (m.finish [v, w] (c || c') (o || o')).step env last.action
      = (f v w >>= fun z => pure (m.finish [z] (c || c') true))) :
    Computes env (s ++ s' ++ [last]) (one (do let v ← x; let w ← y; f v w)) (c || c') true := by
  intro m rest
  rw [List.append_assoc, left.append right]
  simp [run_cons, act]

/-- An action that collects values into one, where their number is known. -/
theorem collect {xs : Except Fault (List Value)} {count : Nat} (cells : Computes env s xs c o)
    (length : ∀ vs, xs = .ok vs → vs.length = count) {f : List Value → Except Fault Value}
    (act : ∀ (m : Machine) (vs : List Value), vs.length = count →
      (m.finish vs c o).step env last.action = (f vs >>= fun w => pure (m.finish [w] c o))) :
    Computes env (s ++ [last]) (one (xs >>= f)) c o := by
  intro m rest
  rw [List.append_assoc, cells]
  cases hxs : xs with
  | error fault => rfl
  | ok vs =>
    change run env (m.finish vs c o) (last :: rest) = (one (f vs)) >>= _
    rw [run_cons, act m vs (length vs hxs)]
    simp

end Computes

/-- The matrix action takes as many values from the stack as the matrix has cells. -/
theorem step_matrix (env : Environment) (m : Machine) {rows cols : Nat} {vs : List Value}
    (count : vs.length = rows * cols) (c o : Bool) :
    (m.finish vs c o).step env (.matrix rows cols)
      = (Value.ofCells rows cols vs >>= fun v => pure (m.finish [v] c o)) := by
  have enough : ¬ (vs.reverse ++ m.stack).length < rows * cols := by simp [count]
  have top : (vs.reverse ++ m.stack).take (rows * cols) = vs.reverse :=
    List.take_left' (by simp [count])
  have below : (vs.reverse ++ m.stack).drop (rows * cols) = m.stack :=
    List.drop_left' (by simp [count])
  simp only [finish, step, enough, ↓reduceIte, top, below, List.reverse_reverse]
  rfl

end Machine

namespace Tree
open Machine

theorem flatten_mapM_one {ι : Type} (f : ι → Except Fault Value) (is : List ι) :
    List.flatten <$> is.mapM (fun i => one (f i)) = is.mapM f := by
  induction is with
  | nil => simp
  | cons i is ih =>
    rw [List.mapM_cons, List.mapM_cons, ← ih]
    simp

theorem length_flatten_mapM {ι κ : Type} {f : ι → κ → Except Fault Value} {is : List ι}
    {js : List κ} {vss : List (List Value)} (h : is.mapM (fun i => js.mapM (f i)) = .ok vss) :
    vss.flatten.length = is.length * js.length := by
  induction is generalizing vss with
  | nil =>
    obtain rfl : [] = vss := Except.ok.inj h
    simp
  | cons i is ih =>
    rw [List.mapM_cons] at h
    obtain ⟨vs, hvs, h⟩ := bind_eq_ok h
    obtain ⟨rest, hrest, h⟩ := bind_eq_ok h
    obtain rfl : vs :: rest = vss := Except.ok.inj h
    rw [List.flatten_cons, List.length_append, length_mapM hvs, ih hrest, List.length_cons]
    rw [Nat.add_mul, Nat.one_mul, Nat.add_comm]

theorem computes_operand (env : Environment) (o : Operand) (span : Span) :
    Computes env [span.step (.push o)] (one (operandValue env o)) false false := by
  intro m rest
  have flags (v : Value) : m.finish [v] false false = { m with stack := v :: m.stack } := by
    simp [finish]
  rw [one_bind]
  simp only [flags, List.singleton_append, run_cons, Span.step]
  rcases o with x | name | id
  · rfl
  · rw [step, operandValue]
    cases env.valueOf? name <;> rfl
  · rw [step, operandValue]
    cases env.resultOf? id <;> rfl

/-- The steps of a tree push its value and raise its flags. -/
theorem computes (env : Environment) (e : Tree) :
    Computes env e.steps (one (e.value env)) e.hasConversion e.hasOperation := by
  induction e with
  | operand o span => exact computes_operand env o span
  | binary op left right span ihl ihr =>
    refine ihl.binary ihr fun m v w => ?_
    simp [Span.step, step, finish, pure, Except.pure]
  | negation e span ih =>
    refine ih.unary fun m v => ?_
    rw [Span.step, step, hasConversion, hasOperation]
    cases h : v.neg <;> simp [finish, mapTop, h, bind, Except.bind, pure, Except.pure]
  | attachment e u span ih =>
    refine ih.unary fun m v => ?_
    rw [Span.step, step, hasConversion, hasOperation]
    simp [finish, mapTop, pure, Except.pure]
  | conversion e u span ih =>
    refine ih.unary fun m v => ?_
    rw [Span.step, step, hasConversion, hasOperation]
    cases h : v.map (·.convert u) <;>
      simp [finish, mapTop, h, bind, Except.bind, pure, Except.pure]
  | matrix rows cols cells span ih =>
    have row (i : Fin rows) := Computes.flatMap (fun j => ih i j) (List.finRange cols)
    simp only [flatten_mapM_one] at row
    have all := Computes.flatMap row (List.finRange rows)
    have value : (matrix rows cols cells span).value env
        = (List.flatten <$> (List.finRange rows).mapM fun i => (List.finRange cols).mapM fun j =>
            (cells i j).value env) >>= Value.ofCells rows cols := by
      simp [Tree.value]
    rw [value]
    refine all.collect (fun vs h => ?_) fun m vs count => step_matrix env m count _ _
    obtain ⟨vss, hvss, rfl⟩ := map_eq_ok h
    simpa using length_flatten_mapM hvss

end Tree

open Machine in
/-- The result of the steps of a tree that has a value. -/
theorem Outcome.ofSteps_of_value {env : Environment} {tree : Tree} {v : Value}
    (h : tree.value env = .ok v) : Outcome.ofSteps env tree.steps
      = .ok (some ⟨v, false, tree.hasConversion, tree.hasOperation⟩) := by
  have run : initial.run env tree.steps = .ok ⟨[v], tree.hasConversion, tree.hasOperation⟩ := by
    have all := tree.computes env initial []
    rw [List.append_nil, one_bind, h] at all
    exact all
  simp only [ofSteps, tree.any_getLast?_steps, Bool.false_eq_true, ↓reduceIte, run]

open Machine in
/-- The result of a line whose steps are the post-order of a tree, with an assignment at their end
or without: the value of the tree, with flags for what stands in it. There is none exactly where
the value has a fault that stays in the line. -/
theorem Outcome.ofSteps_postorder (env : Environment) (e : Tree) (assignment : Option Span) :
    Outcome.ofSteps env (e.steps ++ assignment.toList.map (·.step .assign)) =
      match e.value env with
      | .ok v => .ok (some ⟨v, assignment.isSome, e.hasConversion, e.hasOperation⟩)
      | .error fault =>
          match fault.breakdown? with
          | some cause => .error cause
          | none => .ok none := by
  have run := e.computes env initial []
  rw [List.append_nil, one_bind] at run
  have marked : (e.steps ++ assignment.toList.map (·.step .assign)).getLast?.any
      (·.action == .assign) = assignment.isSome := by
    cases assignment with
    | none => simpa using e.any_getLast?_steps
    | some span => simp [Span.step]
  have unmarked : (if assignment.isSome
      then (e.steps ++ assignment.toList.map (·.step .assign)).dropLast
      else e.steps ++ assignment.toList.map (·.step .assign)) = e.steps := by
    cases assignment <;> simp
  simp only [ofSteps, marked, unmarked, run]
  cases e.value env with
  | error fault => cases fault.breakdown? <;> rfl
  | ok v => simp [initial, finish, bind, Except.bind]

end CalcSheet
