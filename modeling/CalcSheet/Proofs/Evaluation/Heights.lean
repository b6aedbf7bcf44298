import CalcSheet.Proofs.Evaluation.Stacks

/-!
# Heights of the stack

How high the stack stands after some steps is settled by the steps alone. So it can be said of steps
by themselves whether they find all their operands among their own values, and how many values they
leave. Such steps do on any stack what they do on the empty one.
-/
namespace CalcSheet

variable {env : Environment} {steps xs ys : List Step} {h k n : Nat}

namespace Action

/-- How many values an action takes off the stack. -/
def arity : Action → Nat
  | .push _ | .assign => 0
  | .operate _ => 2
  | .negate | .attach _ | .convert _ => 1
  | .matrix rows cols => rows * cols

/-- The height of the stack after an action. There is none if the stack is too low, and none after
an assignment, which does not run. -/
def height? (h : Nat) (a : Action) : Option Nat :=
  if a ≠ .assign ∧ a.arity ≤ h then some (h - a.arity + 1) else none

theorem height?_eq_some {a : Action} :
    a.height? h = some n ↔ a ≠ .assign ∧ a.arity ≤ h ∧ n = h - a.arity + 1 := by
  unfold height?
  split
  · next runs => simp [runs, eq_comm]
  · next stuck =>
    rw [← and_assoc]
    exact iff_of_false nofun fun runs => stuck runs.1

end Action

/-- The height of the stack after some steps. -/
def heightAfter? : Nat → List Step → Option Nat
  | h, [] => some h
  | h, s :: rest => (s.action.height? h).bind (heightAfter? · rest)

theorem heightAfter?_append (h : Nat) (xs ys : List Step) :
    heightAfter? h (xs ++ ys) = (heightAfter? h xs).bind (heightAfter? · ys) := by
  induction xs generalizing h with
  | nil => rfl
  | cons s xs ih =>
    rw [List.cons_append, heightAfter?, heightAfter?, Option.bind_assoc]
    exact congrArg _ (funext ih)

theorem heightAfter?_concat {s : Step} (after : heightAfter? h xs = some n)
    (runs : s.action ≠ .assign) (room : s.action.arity ≤ n) :
    heightAfter? h (xs ++ [s]) = some (n - s.action.arity + 1) := by
  have last : s.action.height? n = some (n - s.action.arity + 1) :=
    Action.height?_eq_some.2 ⟨runs, room, rfl⟩
  rw [heightAfter?_append, after, Option.bind_some, heightAfter?, last]
  rfl

/-- Values further down make no difference. -/
theorem heightAfter?_add (after : heightAfter? h xs = some n) (k : Nat) :
    heightAfter? (h + k) xs = some (n + k) := by
  induction xs generalizing h with
  | nil =>
    obtain rfl := Option.some.inj after
    rfl
  | cons s xs ih =>
    obtain ⟨next, first, rest⟩ := Option.bind_eq_some_iff.1 after
    obtain ⟨runs, room, rfl⟩ := Action.height?_eq_some.1 first
    have deeper : s.action.height? (h + k) = some (h - s.action.arity + 1 + k) :=
      Action.height?_eq_some.2 ⟨runs, by omega, by omega⟩
    rw [heightAfter?, deeper]
    exact ih rest

theorem heightAfter?_append_of_eq (first : heightAfter? 0 xs = some n)
    (second : heightAfter? 0 ys = some k) : heightAfter? 0 (xs ++ ys) = some (n + k) := by
  rw [heightAfter?_append, first, Option.bind_some, Nat.add_comm n k]
  simpa using heightAfter?_add second n

/-- Steps leave at least one value. -/
theorem heightAfter?_pos (after : heightAfter? h xs = some n) (some_ : xs ≠ []) : 0 < n := by
  induction xs generalizing h with
  | nil => exact absurd rfl some_
  | cons s xs ih =>
    obtain ⟨next, first, rest⟩ := Option.bind_eq_some_iff.1 after
    cases xs with
    | nil =>
      obtain rfl := Option.some.inj rest
      obtain ⟨-, -, rfl⟩ := Action.height?_eq_some.1 first
      exact Nat.succ_pos _
    | cons s' xs => exact ih rest nofun

/-! ### Machines -/

namespace Machine
variable {m m' : Machine} {below : List Value} {a : Action}

/-- The machine with further values below those on its stack. -/
def atop (m : Machine) (below : List Value) : Machine := { m with stack := m.stack ++ below }

/-- The machine without the values on its stack. -/
def emptied (m : Machine) : Machine := { m with stack := [] }

theorem mapTop_atop (f : Value → Except Fault Value) (room : 1 ≤ m.stack.length) :
    (m.atop below).mapTop f = (·.atop below) <$> m.mapTop f := by
  obtain ⟨stack, converted, operated⟩ := m
  cases stack with
  | nil => exact absurd room (Nat.not_succ_le_zero 0)
  | cons v rest =>
    change (do let w ← f v; pure _) = _ <$> (do let w ← f v; pure _)
    cases f v <;> rfl

/-- An action that finds its operands does not touch the values below. -/
theorem step_atop (room : a.arity ≤ m.stack.length) :
    (m.atop below).step env a = (·.atop below) <$> m.step env a := by
  cases a with
  | push o =>
    rcases o with x | name | id
    · rfl
    · simp only [step]
      cases env.valueOf? name <;> rfl
    · simp only [step]
      cases env.resultOf? id <;> rfl
  | operate op =>
    obtain ⟨stack, converted, operated⟩ := m
    have room : 2 ≤ stack.length := room
    rcases stack with _ | ⟨right, _ | ⟨left, rest⟩⟩
    · exact absurd room (by simp)
    · exact absurd room (by simp)
    · simp only [step, atop, List.cons_append, map_bind]
      cases Value.binary op left right <;> rfl
  | negate =>
    simp only [step, mapTop_atop _ room, map_bind, bind_map_left]
    rfl
  | attach u => exact mapTop_atop _ room
  | convert u =>
    simp only [step, mapTop_atop _ room, map_bind, bind_map_left]
    rfl
  | matrix rows cols =>
    have room : rows * cols ≤ m.stack.length := room
    have deeper : rows * cols ≤ (m.stack ++ below).length := by
      rw [List.length_append]
      omega
    simp only [step, atop, if_neg (Nat.not_lt.2 deeper), if_neg (Nat.not_lt.2 room),
      List.take_append_of_le_length room, List.drop_append_of_le_length room, map_bind]
    cases Value.ofCells rows cols (m.stack.take (rows * cols)).reverse <;> rfl
  | assign => rfl

theorem length_mapTop {f : Value → Except Fault Value} (mapped : m.mapTop f = .ok m') :
    1 ≤ m.stack.length ∧ m'.stack.length = m.stack.length := by
  unfold mapTop at mapped
  split at mapped
  · exact nomatch mapped
  · next v rest stack =>
    obtain ⟨w, -, done⟩ := bind_eq_ok mapped
    obtain rfl := Except.ok.inj done
    rw [stack]
    exact ⟨Nat.succ_pos _, rfl⟩

/-- What an action leaves is as high as the action says. -/
theorem height?_of_step (stepped : m.step env a = .ok m') :
    a.height? m.stack.length = some m'.stack.length := by
  rw [Action.height?_eq_some]
  cases a with
  | push o =>
    refine ⟨Action.noConfusion, Nat.zero_le _, ?_⟩
    rcases o with x | name | id
    · obtain rfl := Except.ok.inj stepped
      rfl
    · simp only [step] at stepped
      split at stepped
      · obtain rfl := Except.ok.inj stepped
        rfl
      · cases stepped
    · simp only [step] at stepped
      split at stepped
      · obtain rfl := Except.ok.inj stepped
        rfl
      · cases stepped
  | operate op =>
    refine ⟨Action.noConfusion, ?_⟩
    simp only [step] at stepped
    split at stepped
    · next right left rest stack =>
      obtain ⟨v, -, done⟩ := bind_eq_ok stepped
      obtain rfl := Except.ok.inj done
      rw [stack]
      exact ⟨Nat.le_add_left 2 _, rfl⟩
    · cases stepped
  | negate =>
    obtain ⟨middle, mapped, done⟩ := bind_eq_ok stepped
    obtain rfl := Except.ok.inj done
    obtain ⟨room, same⟩ := length_mapTop mapped
    refine ⟨Action.noConfusion, room, ?_⟩
    change middle.stack.length = _ - 1 + 1
    omega
  | attach u =>
    obtain ⟨room, same⟩ := length_mapTop stepped
    refine ⟨Action.noConfusion, room, ?_⟩
    change _ = _ - 1 + 1
    omega
  | convert u =>
    obtain ⟨middle, mapped, done⟩ := bind_eq_ok stepped
    obtain rfl := Except.ok.inj done
    obtain ⟨room, same⟩ := length_mapTop mapped
    refine ⟨Action.noConfusion, room, ?_⟩
    change middle.stack.length = _ - 1 + 1
    omega
  | matrix rows cols =>
    refine ⟨Action.noConfusion, ?_⟩
    simp only [step] at stepped
    split at stepped
    · cases stepped
    · next room =>
      obtain ⟨v, -, done⟩ := bind_eq_ok stepped
      obtain rfl := Except.ok.inj done
      exact ⟨Nat.not_lt.1 room, by simp [Action.arity]⟩
  | assign => cases stepped

theorem heightAfter?_of_run (ran : m.run env xs = .ok m') :
    heightAfter? m.stack.length xs = some m'.stack.length := by
  induction xs generalizing m with
  | nil =>
    obtain rfl := Except.ok.inj ran
    rfl
  | cons s xs ih =>
    obtain ⟨middle, stepped, rest⟩ := bind_eq_ok ran
    rw [heightAfter?, height?_of_step stepped]
    exact ih rest

/-- Steps that find their operands on a stack do not touch the values below. -/
theorem run_atop (after : heightAfter? m.stack.length xs = some n) :
    (m.atop below).run env xs = (·.atop below) <$> m.run env xs := by
  induction xs generalizing m with
  | nil => rfl
  | cons s xs ih =>
    obtain ⟨next, first, rest⟩ := Option.bind_eq_some_iff.1 after
    rw [run, run, step_atop (Action.height?_eq_some.1 first).2.1]
    cases stepped : m.step env s.action with
    | error fault => rfl
    | ok middle =>
      have height := height?_of_step stepped
      rw [first] at height
      obtain rfl := Option.some.inj height
      exact ih rest

end Machine

/-- Steps that find all their operands among their own values, and leave `n` values: on an empty
stack no step that is reached lacks an operand, and on any other stack they do the same above the
values that they find there. -/
structure SelfContained (steps : List Step) (n : Nat) : Prop where
  supplied : ∀ {env : Environment} {m m' : Machine} {done rest : List Step} {s : Step},
    steps = done ++ s :: rest → m.emptied.run env done = .ok m' → s.action.arity ≤ m'.stack.length
  apart : ∀ (env : Environment) (m : Machine),
    m.run env steps = (·.atop m.stack) <$> m.emptied.run env steps
  leaves : ∀ {env : Environment} {m m' : Machine},
    m.emptied.run env steps = .ok m' → m'.stack.length = n

theorem selfContained_of_heightAfter? (after : heightAfter? 0 steps = some n) :
    SelfContained steps n where
  supplied whole ran := by
    have reached := Machine.heightAfter?_of_run ran
    change heightAfter? 0 _ = _ at reached
    rw [whole, heightAfter?_append, reached, Option.bind_some] at after
    obtain ⟨next, first, -⟩ := Option.bind_eq_some_iff.1 after
    exact (Action.height?_eq_some.1 first).2.1
  apart env m := Machine.run_atop (m := m.emptied) after
  leaves ran := by
    have reached := Machine.heightAfter?_of_run ran
    exact Option.some.inj (reached.symm.trans after)

end CalcSheet
