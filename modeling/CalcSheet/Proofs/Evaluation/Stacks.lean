import Mathlib.Data.List.Induction
import CalcSheet.Proofs.Evaluation.Shapes
import CalcSheet.Proofs.Postfix.Emitted

/-!
# Stacks that a calculation reaches

Every step takes values off the stack and puts one back that is of the same kind, or fails in one of
the ways in which a step can fail. So all values on a stack that a line can reach are of that kind.
-/
namespace CalcSheet

variable {p invertible : Quantity → Prop} {unit : Option PhysicalUnit → Prop} {f : Fault → Prop}
  {env : Environment} {steps : List Step}

/-- The values of all variables and lines are of one kind. -/
structure Environment.Holds (p : Quantity → Prop) (env : Environment) : Prop where
  bindings : ∀ b ∈ env.bindings, ∀ v ∈ b.2, v.Holds p
  results : ∀ r ∈ env.results, ∀ v ∈ r.2, v.Holds p

/-- An action that stands in the middle of a line: matrices have cells, units are of one kind. -/
def Action.Holds (unit : Option PhysicalUnit → Prop) : Action → Prop
  | .attach u | .convert u => unit u
  | .matrix rows cols => 0 < rows ∧ 0 < cols
  | .assign => False
  | _ => True

theorem Action.Holds.ne_assign {a : Action} (h : a.Holds unit) : a ≠ .assign := by
  rintro rfl
  exact h

theorem Action.isInherited_holds : Postfix.IsInherited (Action.Holds unit) where
  operate _ := trivial
  negate := trivial
  matrix _ _ rows cols := ⟨rows, cols⟩

theorem holds_of_lookup {κ : Type} [BEq κ] [LawfulBEq κ] {entries : List (κ × Option Value)}
    (each : ∀ b ∈ entries, ∀ v ∈ b.2, v.Holds p) {key : κ} {v : Value}
    (found : (entries.lookup key).join = some v) : v.Holds p := by
  rw [Option.join_eq_some_iff] at found
  obtain ⟨before, after, whole, -⟩ := List.lookup_eq_some_iff.1 found
  exact each (key, some v) (by simp [whole]) v rfl

namespace Machine

/-- Every value on the stack is of one kind. -/
def Holds (p : Quantity → Prop) (m : Machine) : Prop := ∀ v ∈ m.stack, v.Holds p

variable {m : Machine}

theorem Holds.of_cons (h : m.Holds p) {v : Value} {rest : List Value}
    (stack : m.stack = v :: rest) : v.Holds p ∧ ∀ w ∈ rest, w.Holds p := by
  rw [Holds, stack] at h
  exact List.forall_mem_cons.1 h

theorem mapTop_yields {g : Value → Except Fault Value}
    (contained : ∀ fault : Fault, fault.IsContained → f fault) (h : m.Holds p)
    (each : ∀ v : Value, v.Holds p → Yields (Value.Holds p) f (g v)) :
    Yields (Holds p) f (m.mapTop g) := by
  unfold mapTop
  split
  · exact contained _ trivial
  · next v rest stack =>
    obtain ⟨here, later⟩ := h.of_cons stack
    exact (each v here).bind fun w hw => List.forall_mem_cons.2 ⟨hw, later⟩

/-- One step keeps the kind of the values, if those on the stack may be divided by and raised to
powers. -/
theorem step_yields (arithmetic : CellOperations p invertible unit f) (known : env.Holds p)
    (h : m.Holds p) (inverses : ∀ v ∈ m.stack, ∀ q ∈ v.cells, invertible q) {a : Action}
    (sound : a.Holds unit) (literal : ∀ x, a = .push (.number x) → p (.ofDecimal x)) :
    Yields (Holds p) f (m.step env a) := by
  have contained := arithmetic.contained
  cases a with
  | push o =>
    rcases o with x | name | id
    · exact List.forall_mem_cons.2 ⟨literal x rfl, h⟩
    · rw [step]
      split
      · next v found => exact List.forall_mem_cons.2 ⟨holds_of_lookup known.bindings found, h⟩
      · exact contained _ trivial
    · rw [step]
      split
      · next v found => exact List.forall_mem_cons.2 ⟨holds_of_lookup known.results found, h⟩
      · exact contained _ trivial
  | operate op =>
    rw [step]
    split
    · next right left rest stack =>
      obtain ⟨hright, hrest⟩ := h.of_cons stack
      obtain ⟨hleft, hrest⟩ := List.forall_mem_cons.1 hrest
      have iright := inverses right (by simp [stack])
      have ileft := inverses left (by simp [stack])
      exact (arithmetic.binary op hleft hright ileft iright).bind fun v hv =>
        List.forall_mem_cons.2 ⟨hv, hrest⟩
    · exact contained _ trivial
  | negate =>
    have negated := mapTop_yields contained h fun v hv => Value.map_yields hv arithmetic.neg
    exact negated.bind fun m hm => hm
  | attach u =>
    exact mapTop_yields contained h fun v hv =>
      Value.map_yields hv fun q hq => arithmetic.attach q u hq sound
  | convert u =>
    have converted := mapTop_yields contained h fun v hv =>
      Value.map_yields hv fun q hq => arithmetic.convert q u hq sound
    exact converted.bind fun m hm => hm
  | matrix rows cols =>
    rw [step]
    split
    · exact contained _ trivial
    · have cells : ∀ v ∈ (m.stack.take (rows * cols)).reverse, v.Holds p :=
        fun v mem => h v (List.mem_of_mem_take (List.mem_reverse.1 mem))
      refine (arithmetic.ofCells sound.1 sound.2 cells).bind fun v hv => ?_
      exact List.forall_mem_cons.2 ⟨hv, fun w mem => h w (List.mem_of_mem_drop mem)⟩
  | assign => exact sound.elim

theorem run_append (env : Environment) (m : Machine) (xs ys : List Step) :
    run env m (xs ++ ys) = run env m xs >>= fun m => run env m ys := by
  induction xs generalizing m with
  | nil => rfl
  | cons s xs ih =>
    rw [List.cons_append, run, run, bind_assoc]
    exact congrArg _ (funext ih)

/-- The machine after some of the steps. -/
def Reaches (env : Environment) (steps : List Step) (m : Machine) : Prop :=
  ∃ done, done <+: steps ∧ initial.run env done = .ok m

/-- The fault of one of the steps, where those before it succeed. -/
def Fails (env : Environment) (steps : List Step) (fault : Fault) : Prop :=
  ∃ done s m, done ++ [s] <+: steps ∧ initial.run env done = .ok m
    ∧ m.step env s.action = .error fault

theorem fails_of_run {fault : Fault} (failed : initial.run env steps = .error fault) :
    Fails env steps fault := by
  suffices ∀ done rest m, done ++ rest = steps → initial.run env done = .ok m →
      m.run env rest = .error fault → Fails env steps fault from
    this [] steps initial rfl rfl failed
  intro done rest m whole reached failed
  induction rest generalizing done m with
  | nil => exact nomatch failed
  | cons s rest ih =>
    rcases bind_eq_error failed with failed | ⟨next, stepped, failed⟩
    · exact ⟨done, s, m, ⟨rest, by simpa using whole⟩, reached, failed⟩
    · refine ih (done ++ [s]) next (by simpa using whole) ?_ failed
      rw [run_append, reached]
      exact congrArg (· >>= pure) stepped

/-- All values on the stacks that sound steps reach are of one kind, if the numbers that the steps
begin with are. -/
theorem holds_of_literals (arithmetic : CellOperations p invertible unit f) (known : env.Holds p)
    (sound : ∀ step ∈ steps, step.action.Holds unit)
    (literals : ∀ step ∈ steps, ∀ x, step.action = .push (.number x) → p (.ofDecimal x))
    (inverses : ∀ m, Reaches env steps m → ∀ v ∈ m.stack, ∀ q ∈ v.cells, invertible q)
    (reached : Reaches env steps m) : m.Holds p := by
  obtain ⟨done, before, run⟩ := reached
  induction done using List.reverseRecOn generalizing m with
  | nil =>
    obtain rfl : initial = m := Except.ok.inj run
    exact List.forall_mem_nil _
  | append_singleton done s ih =>
    have earlier := (List.prefix_append done [s]).trans before
    rw [run_append] at run
    obtain ⟨m', run', last⟩ := bind_eq_ok run
    obtain ⟨next, stepped, same⟩ := bind_eq_ok last
    obtain rfl : next = m := Except.ok.inj same
    have mem : s ∈ steps := before.subset (by simp)
    exact (step_yields arithmetic known (ih earlier run') (inverses m' ⟨done, earlier, run'⟩)
      (sound s mem) (literals s mem)).ok stepped

theorem holds_of_reaches (arithmetic : CellArithmetic p invertible unit f) (known : env.Holds p)
    (sound : ∀ step ∈ steps, step.action.Holds unit)
    (inverses : ∀ m, Reaches env steps m → ∀ v ∈ m.stack, ∀ q ∈ v.cells, invertible q)
    (reached : Reaches env steps m) : m.Holds p :=
  holds_of_literals arithmetic.toCellOperations known sound (fun _ _ x _ => arithmetic.decimal x)
    inverses reached

theorem fault_of_fails (arithmetic : CellArithmetic p invertible unit f) (known : env.Holds p)
    (sound : ∀ step ∈ steps, step.action.Holds unit)
    (inverses : ∀ m, Reaches env steps m → ∀ v ∈ m.stack, ∀ q ∈ v.cells, invertible q)
    {fault : Fault} (failed : Fails env steps fault) : f fault := by
  obtain ⟨done, s, m, before, run, failed⟩ := failed
  have reached : Reaches env steps m := ⟨done, (List.prefix_append done [s]).trans before, run⟩
  have held := holds_of_reaches arithmetic known sound inverses reached
  have here := sound s (before.subset (by simp))
  exact (step_yields arithmetic.toCellOperations known held (inverses m reached) here
    fun x _ => arithmetic.decimal x).error failed

end Machine
end CalcSheet
