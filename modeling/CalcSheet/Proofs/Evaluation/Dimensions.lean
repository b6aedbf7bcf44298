import CalcSheet.Proofs.Evaluation.Containment
import CalcSheet.Proofs.Evaluation.Trees
import CalcSheet.Proofs.Scalar.Exact

/-!
# Dimensions of expressions

The dimensions of the value of an expression can be read off the expression. Every operation keeps
to it that no number has a unit without dimensions: where dimensions cancel the unit vanishes.
-/
namespace CalcSheet
open PhysicalUnit

namespace Dimensions
variable (d : Dimensions)

@[simp] theorem add_none : d.add .none = d := by simp [add, none]

@[simp] theorem none_add : none.add d = d := by simp [add, none]

@[simp] theorem sub_none : d.sub .none = d := by simp [sub, none]

@[simp] theorem scale_zero : d.scale 0 = .none := by simp [scale, none]

@[simp] theorem none_scale (n : Int) : none.scale n = .none := by simp [scale, none]

theorem scale_neg_one : d.scale (-1) = none.sub d := by simp [scale, sub, none]

theorem scale_eq_none {d : Dimensions} {n : Int} (nonzero : n ≠ 0) :
    d.scale n = .none ↔ d = .none := by
  cases d
  simp [scale, none, nonzero]

end Dimensions

namespace Quantity

/-- A quantity with the dimensions `d`, and without a unit if there are none. -/
structure HasDimensions (q : Quantity) (d : Dimensions) : Prop where
  dimensions : q.dimensions = d
  reduced : ∀ u ∈ q.unit, ¬ u.IsDimensionless

variable {x y z : Quantity} {d e : Dimensions} {u : PhysicalUnit} {unit : Option PhysicalUnit}
  {value : Scalar}

theorem HasDimensions.unit_eq_none_iff (h : x.HasDimensions d) : x.unit = none ↔ d = .none := by
  rw [← h.dimensions, Quantity.dimensions]
  cases unit : x.unit with
  | none => simp [dimensionsOf]
  | some u => exact iff_of_false nofun (h.reduced u unit)

theorem HasDimensions.eq_of_mem (h : x.HasDimensions d) (mem : u ∈ x.unit) : u.dimensions = d := by
  rw [← h.dimensions, Quantity.dimensions, Option.mem_def.1 mem, dimensionsOf]

theorem hasDimensions_ofScalar (value : Scalar) : (ofScalar value).HasDimensions .none :=
  ⟨rfl, fun _ mem => nomatch mem⟩

theorem hasDimensions_some (value : Scalar) (nonzero : ¬ u.IsDimensionless) :
    HasDimensions ⟨value, some u⟩ u.dimensions :=
  ⟨rfl, fun _ mem => Option.some.inj mem ▸ nonzero⟩

/-- What has the unit of another quantity has its dimensions. -/
theorem HasDimensions.of_unit_eq (h : x.HasDimensions d) (same : z.unit = x.unit) :
    z.HasDimensions d :=
  ⟨by rw [← h.dimensions, Quantity.dimensions, same, Quantity.dimensions], same ▸ h.reduced⟩

/-! ### Operations -/

theorem hasDimensions_collapse (done : collapse value u = .ok z) :
    z.HasDimensions u.dimensions := by
  unfold collapse at done
  split at done
  · next dimensionless =>
    obtain ⟨scaled, -, done⟩ := bind_eq_ok done
    obtain rfl := Except.ok.inj done
    rw [show u.dimensions = .none from dimensionless]
    exact hasDimensions_ofScalar scaled
  · next nonzero =>
    obtain rfl := Except.ok.inj done
    exact hasDimensions_some value nonzero

theorem unit_of_neg (done : x.neg = .ok z) : z.unit = x.unit := by
  obtain ⟨value, -, done⟩ := bind_eq_ok done
  obtain rfl := Except.ok.inj done
  rfl

theorem unit_of_add (done : x.add y = .ok z) : x.dimensions = y.dimensions ∧ z.unit = x.unit := by
  unfold add at done
  split at done
  · exact nomatch done
  · next same =>
    refine ⟨Decidable.not_not.1 same, ?_⟩
    split at done
    · next plain =>
      obtain ⟨sum, -, done⟩ := bind_eq_ok done
      obtain rfl := Except.ok.inj done
      exact (Option.isNone_iff_eq_none.1 plain.1).symm
    · obtain ⟨factor, -, done⟩ := bind_eq_ok done
      obtain ⟨scaled, -, done⟩ := bind_eq_ok done
      obtain ⟨sum, -, done⟩ := bind_eq_ok done
      obtain rfl := Except.ok.inj done
      rfl

theorem HasDimensions.neg (hx : x.HasDimensions d) (done : x.neg = .ok z) : z.HasDimensions d :=
  hx.of_unit_eq (unit_of_neg done)

theorem HasDimensions.add (hx : x.HasDimensions d) (hy : y.HasDimensions e)
    (done : x.add y = .ok z) : d = e ∧ z.HasDimensions d := by
  obtain ⟨same, unit⟩ := unit_of_add done
  exact ⟨by rw [← hx.dimensions, ← hy.dimensions, same], hx.of_unit_eq unit⟩

theorem HasDimensions.sub (hx : x.HasDimensions d) (hy : y.HasDimensions e)
    (done : x.sub y = .ok z) : d = e ∧ z.HasDimensions d := by
  obtain ⟨opposite, negated, done⟩ := bind_eq_ok done
  exact hx.add (hy.neg negated) done

theorem HasDimensions.mul (hx : x.HasDimensions d) (hy : y.HasDimensions e)
    (done : x.mul y = .ok z) : z.HasDimensions (d.add e) := by
  obtain ⟨value, -, done⟩ := bind_eq_ok done
  rw [← hx.dimensions, ← hy.dimensions, Quantity.dimensions, Quantity.dimensions]
  cases hu : x.unit with
  | none =>
    simp only [hu] at done
    obtain rfl := Except.ok.inj done
    rw [dimensionsOf, Dimensions.none_add]
    exact ⟨rfl, hy.reduced⟩
  | some u =>
    cases hw : y.unit with
    | none =>
      simp only [hu, hw] at done
      obtain rfl := Except.ok.inj done
      exact (Dimensions.add_none _).symm ▸ hasDimensions_some value (hx.reduced u hu)
    | some w =>
      simp only [hu, hw] at done
      obtain ⟨product, multiplied, done⟩ := bind_eq_ok done
      obtain ⟨factor, -, multiplied⟩ := bind_eq_ok (mapError_eq_ok multiplied)
      obtain rfl := Except.ok.inj multiplied
      exact hasDimensions_collapse done

theorem HasDimensions.div (hx : x.HasDimensions d) (hy : y.HasDimensions e)
    (done : x.div y = .ok z) : z.HasDimensions (d.sub e) := by
  obtain ⟨zero, -, done⟩ := bind_eq_ok done
  split at done
  · exact nomatch done
  obtain ⟨value, -, done⟩ := bind_eq_ok done
  rw [← hx.dimensions, ← hy.dimensions, Quantity.dimensions, Quantity.dimensions]
  cases hw : y.unit with
  | none =>
    simp only [hw] at done
    obtain rfl := Except.ok.inj done
    rw [dimensionsOf, Dimensions.sub_none]
    exact ⟨rfl, hx.reduced⟩
  | some w =>
    cases hu : x.unit with
    | none =>
      simp only [hu, hw] at done
      obtain ⟨reciprocal, inverted, done⟩ := bind_eq_ok done
      obtain ⟨factor, -, inverted⟩ := bind_eq_ok (mapError_eq_ok inverted)
      obtain rfl := Except.ok.inj inverted
      rw [dimensionsOf, dimensionsOf, ← Dimensions.scale_neg_one]
      exact hasDimensions_collapse done
    | some u =>
      simp only [hu, hw] at done
      obtain ⟨quotient, divided, done⟩ := bind_eq_ok done
      obtain ⟨factor, -, divided⟩ := bind_eq_ok (mapError_eq_ok divided)
      obtain rfl := Except.ok.inj divided
      exact hasDimensions_collapse done

/-- The integer that an exponent is, or zero where it is none. -/
def exponent (y : Quantity) : Int := y.value.toInt?.getD 0

theorem exponent_of_wholeExponent? {n : Int} (whole : wholeExponent? y.value = .ok (some n)) :
    y.exponent = n := by
  rw [exponent, toInt?_of_wholeExponent? whole]
  rfl

theorem HasDimensions.powUnit {u : PhysicalUnit} (nonzero : ¬ u.IsDimensionless)
    (done : x.powUnit u y = .ok z) : z.HasDimensions (u.dimensions.scale y.exponent) := by
  obtain ⟨n?, whole, done⟩ := bind_eq_ok done
  cases n? with
  | none => exact nomatch done
  | some n =>
    rw [exponent_of_wholeExponent? whole]
    dsimp only at done
    split at done
    · next zero =>
      obtain rfl := Except.ok.inj done
      rw [zero, Dimensions.scale_zero]
      exact hasDimensions_ofScalar _
    · next some =>
      obtain ⟨value, -, done⟩ := bind_eq_ok done
      obtain ⟨unit, raised, done⟩ := bind_eq_ok done
      obtain ⟨factor, -, raised⟩ := bind_eq_ok (mapError_eq_ok raised)
      obtain rfl := Except.ok.inj raised
      obtain rfl := Except.ok.inj done
      exact hasDimensions_some value fun none => nonzero ((Dimensions.scale_eq_none some).1 none)

theorem HasDimensions.pow (hx : x.HasDimensions d) (hy : y.HasDimensions e)
    (done : x.pow y = .ok z) : e = .none ∧ z.HasDimensions (d.scale y.exponent) := by
  unfold Quantity.pow at done
  split at done
  · exact nomatch done
  next plain =>
  refine ⟨hy.unit_eq_none_iff.1 (by simpa using plain), ?_⟩
  obtain ⟨invertsZero, -, done⟩ := bind_eq_ok done
  split at done
  · exact nomatch done
  rw [← hx.dimensions, Quantity.dimensions]
  cases hu : x.unit with
  | none =>
    simp only [hu] at done
    obtain ⟨value, -, done⟩ := bind_eq_ok done
    obtain rfl := Except.ok.inj done
    rw [dimensionsOf, Dimensions.none_scale]
    exact hasDimensions_ofScalar value
  | some u =>
    simp only [hu] at done
    exact powUnit (hx.reduced u hu) done

theorem hasDimensions_attach (done : x.attach unit = .ok z) :
    z.HasDimensions (dimensionsOf unit) := by
  cases unit with
  | none => exact nomatch done
  | some u =>
    simp only [attach] at done
    split at done
    · exact nomatch done
    · split at done
      · next dimensionless =>
        obtain ⟨scaled, -, done⟩ := bind_eq_ok done
        obtain rfl := Except.ok.inj done
        rw [show dimensionsOf (some u) = .none from dimensionless]
        exact hasDimensions_ofScalar scaled
      · next nonzero =>
        obtain rfl := Except.ok.inj done
        exact hasDimensions_some x.value nonzero

end Quantity

/-- A single number that has a unit just if it has dimensions. -/
def Value.IsReduced (v : Value) : Prop := ∃ q d, v = .number q ∧ q.HasDimensions d

namespace Tree
variable (env : Environment)

/-- The dimensions of what a name is bound to. -/
def boundDimensions : Option Value → Dimensions
  | some (.number q) => q.dimensions
  | _ => .none

/-- The integer that a tree has as an exponent. -/
def exponent (e : Tree) : Int :=
  match e.value env with
  | .ok (.number q) => q.exponent
  | _ => 0

/-- The dimensions of an expression, as they follow from those of its parts. A sum has those of its
left operand. -/
def dimensions : Tree → Dimensions
  | operand (.number _) _ => .none
  | operand (.variable name) _ => boundDimensions (env.valueOf? name)
  | operand (.reference id) _ => boundDimensions (env.resultOf? id)
  | binary .add left _ _ | binary .sub left _ _ => left.dimensions
  | binary .mul left right _ => left.dimensions.add right.dimensions
  | binary .div left right _ => left.dimensions.sub right.dimensions
  | binary .pow left right _ => left.dimensions.scale (right.exponent env)
  | negation e _ => e.dimensions
  | attachment _ u _ | conversion _ u _ => dimensionsOf u
  | matrix .. => .none

/-- An expression of single numbers without a conversion. What names are bound to has a unit just if
it has dimensions. -/
def IsScalar : Tree → Prop
  | operand (.number _) _ => True
  | operand (.variable name) _ => ∀ v ∈ env.valueOf? name, v.IsReduced
  | operand (.reference id) _ => ∀ v ∈ env.resultOf? id, v.IsReduced
  | binary _ left right _ => left.IsScalar ∧ right.IsScalar
  | negation e _ | attachment e _ _ => e.IsScalar
  | conversion .. | matrix .. => False

/-- Somewhere in an expression numbers of different dimensions are added or subtracted, or an
exponent has dimensions. -/
def IsMismatched : Tree → Prop
  | operand .. | matrix .. => False
  | binary op left right _ => left.IsMismatched ∨ right.IsMismatched ∨
      match op with
      | .add | .sub => left.dimensions env ≠ right.dimensions env
      | .pow => right.dimensions env ≠ .none
      | .mul | .div => False
  | negation e _ | attachment e _ _ | conversion e _ _ => e.IsMismatched

variable {env} {e : Tree} {v : Value}

theorem hasDimensions_of_bound {v? : Option Value} {fault : Fault}
    (reduced : ∀ v ∈ v?, v.IsReduced)
    (done : (match v? with | some v => .ok v | none => .error fault) = Except.ok v) :
    ∃ q, v = .number q ∧ q.HasDimensions (boundDimensions v?) := by
  cases v? with
  | none => exact nomatch done
  | some w =>
    obtain rfl := Except.ok.inj done
    obtain ⟨q, d, rfl, h⟩ := reduced w rfl
    exact ⟨q, rfl, rfl, h.reduced⟩

/-- An expression that has a value has the dimensions that were inferred, and there is no mismatch
in it. -/
theorem hasDimensions_of_value (scalar : e.IsScalar env) (done : e.value env = .ok v) :
    (∃ q, v = .number q ∧ q.HasDimensions (e.dimensions env)) ∧ ¬ e.IsMismatched env := by
  induction e generalizing v with
  | operand o span =>
    refine ⟨?_, id⟩
    rcases o with x | name | id
    · obtain rfl := Except.ok.inj done
      exact ⟨_, rfl, Quantity.hasDimensions_ofScalar _⟩
    · exact hasDimensions_of_bound scalar done
    · exact hasDimensions_of_bound scalar done
  | binary op left right span ihl ihr =>
    obtain ⟨_, hleft, done⟩ := bind_eq_ok done
    obtain ⟨_, hright, done⟩ := bind_eq_ok done
    obtain ⟨⟨x, rfl, hx⟩, matchedLeft⟩ := ihl scalar.1 hleft
    obtain ⟨⟨y, rfl, hy⟩, matchedRight⟩ := ihr scalar.2 hright
    obtain ⟨z, applied, rfl⟩ := map_eq_ok done
    simp only [IsMismatched, matchedLeft, matchedRight, false_or]
    cases op with
    | add => exact ⟨⟨z, rfl, (hx.add hy applied).2⟩, fun differ => differ (hx.add hy applied).1⟩
    | sub => exact ⟨⟨z, rfl, (hx.sub hy applied).2⟩, fun differ => differ (hx.sub hy applied).1⟩
    | mul => exact ⟨⟨z, rfl, hx.mul hy applied⟩, id⟩
    | div => exact ⟨⟨z, rfl, hx.div hy applied⟩, id⟩
    | pow =>
      have exponent : right.exponent env = y.exponent := by rw [exponent, hright]
      refine ⟨⟨z, rfl, ?_⟩, fun dimensions => dimensions (hx.pow hy applied).1⟩
      rw [Tree.dimensions, exponent]
      exact (hx.pow hy applied).2
  | negation e span ih =>
    obtain ⟨_, he, done⟩ := bind_eq_ok done
    obtain ⟨⟨x, rfl, hx⟩, matched⟩ := ih scalar he
    obtain ⟨z, applied, rfl⟩ := map_eq_ok done
    exact ⟨⟨z, rfl, hx.neg applied⟩, matched⟩
  | attachment e u span ih =>
    obtain ⟨_, he, done⟩ := bind_eq_ok done
    obtain ⟨⟨x, rfl, hx⟩, matched⟩ := ih scalar he
    obtain ⟨z, applied, rfl⟩ := map_eq_ok done
    exact ⟨⟨z, rfl, Quantity.hasDimensions_attach applied⟩, matched⟩
  | conversion e u span => exact scalar.elim
  | matrix rows cols cells span => exact scalar.elim

/-- What is calculated where a tree is assigned to a name, or not. -/
theorem calculation_steps (e : Tree) (assignment : Option Span) :
    calculation (e.steps ++ assignment.toList.map (·.step .assign)) = e.steps := by
  cases assignment with
  | none => simp [calculation, e.any_getLast?_steps]
  | some span => simp [calculation, Span.step]

theorem value_of_ofSteps {assignment : Option Span} {outcome : Outcome}
    (evaluated : Outcome.ofSteps env (e.steps ++ assignment.toList.map (·.step .assign))
      = .ok (some outcome)) : e.value env = .ok outcome.result := by
  obtain ⟨m, ran, stack⟩ := Outcome.run_of_ofSteps evaluated
  have run := e.computes env .initial []
  rw [calculation_steps] at ran
  rw [List.append_nil, ran, Machine.one_bind] at run
  cases value : e.value env with
  | error fault =>
    rw [value] at run
    exact nomatch run
  | ok v =>
    rw [value] at run
    obtain rfl := Except.ok.inj run
    rw [(List.cons.inj stack).1]

end Tree

/-- The result of an expression of single numbers has a unit just if dimensions are inferred for the
expression, and then they are those of the unit. With a mismatch in it there is no result. -/
theorem Outcome.dimensions_of_result {env : Environment} {e : Tree} {assignment : Option Span}
    {outcome : Outcome} (scalar : e.IsScalar env)
    (evaluated : Outcome.ofSteps env (e.steps ++ assignment.toList.map (·.step .assign))
      = .ok (some outcome)) :
    (∃ q, outcome.result = .number q ∧ (q.unit = none ↔ e.dimensions env = .none)
      ∧ ∀ u ∈ q.unit, u.dimensions = e.dimensions env) ∧ ¬ e.IsMismatched env := by
  obtain ⟨⟨q, number, h⟩, matched⟩ :=
    Tree.hasDimensions_of_value scalar (Tree.value_of_ofSteps evaluated)
  exact ⟨⟨q, number, h.unit_eq_none_iff, fun u mem => h.eq_of_mem mem⟩, matched⟩

/-- The square of a length over a time. -/
theorem Outcome.dimensions_of_result_quotient :
    let metre : PhysicalUnit := ⟨⟨1, 0, 0, 0, 0, 0, 0, 0⟩, .one, [(['m'], 1)]⟩
    let second : PhysicalUnit := ⟨⟨0, 0, 1, 0, 0, 0, 0, 0⟩, .one, [(['s'], 1)]⟩
    let env : Environment := ⟨[(['x'], some (.number ⟨.ofInt 6, some metre⟩))], []⟩
    let number (n : Nat) : Tree := .operand (.number (.ofNat n)) .absent
    let e : Tree :=
      .binary .div (.binary .pow (.operand (.variable ['x']) .absent) (number 2) .absent)
        (.attachment (number 3) (some second) .absent) .absent
    e.IsScalar env ∧ ∃ outcome, Outcome.ofSteps env
        (e.steps ++ (none : Option Span).toList.map (·.step .assign)) = .ok (some outcome)
      ∧ (∃ q, outcome.result = .number q ∧ (q.unit = none ↔ e.dimensions env = .none)
        ∧ ∀ u ∈ q.unit, u.dimensions = e.dimensions env) ∧ ¬ e.IsMismatched env := by
  intro metre second env number e
  have bound : ∀ v ∈ env.valueOf? ['x'], v.IsReduced := by
    intro v mem
    obtain rfl := Option.some.inj mem
    exact ⟨_, _, rfl, Quantity.hasDimensions_some (.ofInt 6) (by decide)⟩
  have scalar : e.IsScalar env := ⟨⟨bound, trivial⟩, trivial⟩
  have some : ∃ outcome?, Outcome.ofSteps env
      (e.steps ++ (none : Option Span).toList.map (·.step .assign)) = .ok outcome?
        ∧ outcome?.isSome = true := by
    decide +kernel
  obtain ⟨outcome?, evaluated, some⟩ := some
  obtain ⟨outcome, rfl⟩ := Option.isSome_iff_exists.1 some
  exact ⟨scalar, outcome, evaluated, dimensions_of_result scalar evaluated⟩

end CalcSheet
