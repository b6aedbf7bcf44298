import CalcSheet.Proofs.Evaluation.Shapes
import CalcSheet.Proofs.Unit.Parsing

/-!
# Finite quantities

Sums and products of finite quantities are finite. So are quotients and powers, unless the factor of
a unit has become zero: the reciprocal of such a unit has an infinite factor.

Every fact is stated under an assumption `known`, on which all that is known of numbers depends.
Without it there is still something left: which faults an operation can have.
-/
namespace CalcSheet
open PhysicalUnit

/-- A fault that ends a calculation; an infinite number may be counted only where numbers are not
known to be finite. -/
def Fault.IsAllowed (known : Prop) (fault : Fault) : Prop :=
  fault.IsContained ∨ (fault = .infiniteCount ∧ ¬ known)

namespace Quantity

/-- A finite number, in a unit that is a finite number of base units. -/
structure IsFinite (q : Quantity) : Prop where
  value : q.value.IsFinite
  unit : ∀ u ∈ q.unit, u.factor.IsFinite

/-- A quantity whose unit is not zero base units. -/
def IsInvertible (q : Quantity) : Prop := ∀ u ∈ q.unit, u.factor.IsInvertible

instance (q : Quantity) : Decidable q.IsFinite :=
  decidable_of_iff (q.value.IsFinite ∧ ∀ u ∈ q.unit, u.factor.IsFinite)
    ⟨fun h => ⟨h.1, h.2⟩, fun h => ⟨h.value, h.unit⟩⟩

variable {known : Prop} {x y : Quantity} {u w : PhysicalUnit} {unit : Option PhysicalUnit}
  {value z : Scalar}

theorem isFinite_ofScalar (h : value.IsFinite) : (ofScalar value).IsFinite :=
  ⟨h, by simp [ofScalar]⟩

theorem isFinite_some (h : value.IsFinite) (hu : u.factor.IsFinite) :
    IsFinite ⟨value, some u⟩ := ⟨h, by simpa using hu⟩

/-! ### Parts of calculations -/

theorem lift_yields {α : Type} {r : Except Decimal.Signal α} {p : α → Prop}
    (h : known → ∀ a, r = .ok a → p a) : Yields (known → p ·) (Fault.IsAllowed known) (lift r) := by
  cases r with
  | error s => exact .inl trivial
  | ok a => exact fun hk => h hk a rfl

theorem ofConversion_yields {α : Type} {r : Except ConversionFault α} {p : α → Prop}
    (h : known → ∀ a, r = .ok a → p a) :
    Yields (known → p ·) (Fault.IsAllowed known) (ofConversion r) := by
  rcases r with (⟨source, target⟩ | s) | a
  · exact .inl trivial
  · exact .inl trivial
  · exact fun hk => h hk a rfl

theorem conversionFactor_isFinite {source target : Option PhysicalUnit}
    (hs : ∀ u ∈ source, u.factor.IsFinite) (ht : ∀ u ∈ target, u.factor.IsFinite)
    (h : conversionFactor source target = .ok z) : z.IsFinite := by
  have factor {unit : Option PhysicalUnit} (h : ∀ u ∈ unit, u.factor.IsFinite) :
      ((unit.map PhysicalUnit.factor).getD .one).IsFinite := by
    cases unit with
    | none => exact Scalar.isFinite_one
    | some u => exact h u rfl
  unfold conversionFactor at h
  split at h
  · exact nomatch h
  · obtain ⟨same, -, h⟩ := bind_eq_ok (mapError_eq_ok h)
    split at h
    · obtain rfl := Except.ok.inj h
      exact Scalar.isFinite_one
    · exact (factor hs).div (factor ht) h

theorem collapse_yields (h : known → value.IsFinite) (hu : known → u.factor.IsFinite) :
    Yields (known → IsFinite ·) (Fault.IsAllowed known) (collapse value u) := by
  unfold collapse
  split
  · exact (lift_yields fun hk _ scaled => (h hk).mul (hu hk) scaled).bind fun scaled hz hk =>
      isFinite_ofScalar (hz hk)
  · exact fun hk => isFinite_some (h hk) (hu hk)

/-! ### Operations -/

theorem neg_yields (h : known → x.IsFinite) :
    Yields (known → IsFinite ·) (Fault.IsAllowed known) x.neg :=
  (lift_yields fun hk _ negated => (h hk).value.neg negated).bind fun _ hvalue hk =>
    ⟨hvalue hk, (h hk).unit⟩

theorem add_yields (hx : known → x.IsFinite) (hy : known → y.IsFinite) :
    Yields (known → IsFinite ·) (Fault.IsAllowed known) (x.add y) := by
  unfold add
  split
  · exact .inl trivial
  · split
    · exact (lift_yields fun hk _ sum => (hx hk).value.add (hy hk).value sum).bind
        fun sum hsum hk => isFinite_ofScalar (hsum hk)
    · refine (ofConversion_yields fun hk _ converted =>
        conversionFactor_isFinite (hy hk).unit (hx hk).unit converted).bind fun factor hfactor => ?_
      refine (lift_yields fun hk _ scaled =>
        (hy hk).value.mul (hfactor hk) scaled).bind fun scaled hscaled => ?_
      refine (lift_yields fun hk _ sum =>
        (hx hk).value.add (hscaled hk) sum).bind fun sum hsum hk => ?_
      exact ⟨hsum hk, (hx hk).unit⟩

theorem mul_yields (hx : known → x.IsFinite) (hy : known → y.IsFinite) :
    Yields (known → IsFinite ·) (Fault.IsAllowed known) (x.mul y) := by
  unfold mul
  refine (lift_yields fun hk _ product =>
    (hx hk).value.mul (hy hk).value product).bind fun value hvalue => ?_
  split
  · next u w hu hw =>
    have fu (hk : known) : u.factor.IsFinite := (hx hk).unit u hu
    have fw (hk : known) : w.factor.IsFinite := (hy hk).unit w hw
    exact (lift_yields fun hk _ product => mul_isFinite (fu hk) (fw hk) product).bind
      fun product hproduct => collapse_yields hvalue hproduct
  · next u hu hw => exact fun hk => isFinite_some (hvalue hk) ((hx hk).unit u hu)
  · exact fun hk => ⟨hvalue hk, (hy hk).unit⟩

theorem div_yields (hx : known → x.IsFinite) (hy : known → y.IsFinite)
    (inverse : known → y.IsInvertible) :
    Yields (known → IsFinite ·) (Fault.IsAllowed known) (x.div y) := by
  unfold div
  refine (lift_yields (p := fun _ => True) fun _ _ _ => trivial).bind fun zero _ => ?_
  split
  · exact .inl trivial
  refine (lift_yields fun hk _ quotient =>
    (hx hk).value.div (hy hk).value quotient).bind fun value hvalue => ?_
  split
  · exact fun hk => ⟨hvalue hk, (hx hk).unit⟩
  · next w hu hw =>
    exact (lift_yields fun hk _ reciprocal =>
      pow_isFinite (inverse hk w hw) reciprocal).bind fun reciprocal h => collapse_yields hvalue h
  · next u w hu hw =>
    have divided (hk : known) (quotient : PhysicalUnit) (h : u.div w = .ok quotient) :
        quotient.factor.IsFinite := by
      obtain ⟨factor, quotient, done⟩ := bind_eq_ok h
      obtain rfl := Except.ok.inj done
      exact ((hx hk).unit u hu).div ((hy hk).unit w hw) quotient
    exact (lift_yields divided).bind fun quotient h => collapse_yields hvalue h

/-- An integer that is below zero comes from a number below zero. -/
theorem isNegative_of_toInt? {d : Decimal} {n : Int} (h : d.toInt? = some n) (neg : n < 0) :
    d.IsNegative := by
  unfold Decimal.toInt? at h
  split at h
  · obtain rfl := Option.some.inj h
    exact absurd neg (by decide)
  · next nonzero =>
    refine ⟨?_, nonzero⟩
    cases digits : d.wholeDigits? with
    | none =>
      rw [digits] at h
      exact nomatch h
    | some c =>
      rw [digits] at h
      obtain rfl := Option.some.inj h
      have nonneg : 0 ≤ (c : Int) * Digits.tenPow d.exponent.toNat :=
        Int.mul_nonneg (Int.natCast_nonneg _) (Int.natCast_nonneg _)
      by_contra plus
      dsimp only at neg
      rw [if_neg plus] at neg
      exact absurd neg (Int.not_lt.2 nonneg)

theorem powUnit_yields (hx : known → x.IsFinite) (hy : known → y.IsFinite)
    (inverse : known → u.factor.IsInvertible)
    (noPole : x.value.isZero = .ok true → y.value.isNegative = .ok false) :
    Yields (known → IsFinite ·) (Fault.IsAllowed known) (powUnit x u y) := by
  unfold powUnit
  have exponent : Yields (fun n? => known → ∀ n ∈ n?,
      x.value.isZero = .ok true → (Scalar.ofInt n).isNegative = .ok false)
      (Fault.IsAllowed known) (wholeExponent? y.value) := by
    cases exponent : y.value with
    | finite d =>
      intro _ n whole zero
      have nonneg := noPole zero
      rw [exponent] at nonneg
      have positive : ¬ n < 0 := by
        intro neg
        simp [Scalar.isNegative, isNegative_of_toInt? whole neg] at nonneg
      simp [Scalar.ofInt, Scalar.isNegative, Decimal.ofInt, Decimal.IsNegative, positive]
    | infinite negative =>
      refine .inr ⟨rfl, fun hk => ?_⟩
      have := (hy hk).value
      rw [exponent] at this
      exact this
    | nan negative signaling payload =>
      unfold wholeExponent?
      dsimp only
      split
      · exact .inl trivial
      · simp [Yields]
  refine exponent.bind fun n? hn => ?_
  cases n? with
  | none => exact .inl trivial
  | some n =>
    dsimp only
    split
    · exact fun _ => isFinite_ofScalar trivial
    · refine (lift_yields fun hk _ raised => (hx hk).value.pow (Scalar.isFinite_ofInt n)
        (hn hk n rfl) raised).bind fun value hvalue => ?_
      exact (lift_yields fun hk _ raised => pow_isFinite (inverse hk) raised).bind
        fun unit hunit hk => isFinite_some (hvalue hk) (hunit hk)

theorem pow_yields (hx : known → x.IsFinite) (hy : known → y.IsFinite)
    (inverse : known → x.IsInvertible) :
    Yields (known → IsFinite ·) (Fault.IsAllowed known) (x.pow y) := by
  unfold pow
  split
  · exact .inl trivial
  have pole : Yields (fun inverts => inverts = false → x.value.isZero = .ok true →
      y.value.isNegative = .ok false) (Fault.IsAllowed known)
      (lift do if ← x.value.isZero then y.value.isNegative else pure false) := by
    cases zero : x.value.isZero with
    | error s => exact .inl trivial
    | ok isZero =>
      cases isZero with
      | false => simp [Yields, lift, bind, Except.bind, pure, Except.pure, Except.mapError]
      | true =>
        change Yields _ _ (lift y.value.isNegative)
        cases negative : y.value.isNegative with
        | error s => exact .inl trivial
        | ok b =>
          rintro rfl _
          rfl
  refine pole.bind fun inverts noPole => ?_
  split
  · exact .inl trivial
  · next kept =>
    have noPole := noPole (Bool.eq_false_iff.2 kept)
    split
    · exact (lift_yields fun hk _ raised =>
        (hx hk).value.pow (hy hk).value noPole raised).bind fun value hvalue hk =>
          isFinite_ofScalar (hvalue hk)
    · next u hu => exact powUnit_yields hx hy (fun hk => inverse hk u hu) noPole

theorem attach_yields (hx : known → x.IsFinite) (hu : known → ∀ u ∈ unit, u.factor.IsFinite) :
    Yields (known → IsFinite ·) (Fault.IsAllowed known) (x.attach unit) := by
  unfold attach
  split
  · exact .inl trivial
  · next u =>
    split
    · exact .inl trivial
    · split
      · exact (lift_yields fun hk _ scaled => (hx hk).value.mul (hu hk u rfl) scaled).bind
          fun scaled hz hk => isFinite_ofScalar (hz hk)
      · exact fun hk => isFinite_some (hx hk).value (hu hk u rfl)

theorem convert_yields (hx : known → x.IsFinite) (hu : known → ∀ u ∈ unit, u.factor.IsFinite) :
    Yields (known → IsFinite ·) (Fault.IsAllowed known) (x.convert unit) := by
  unfold convert
  split
  · exact .inl trivial
  · next u =>
    refine (ofConversion_yields fun hk _ converted =>
      conversionFactor_isFinite (hx hk).unit (hu hk) converted).bind fun factor hfactor => ?_
    exact (lift_yields fun hk _ scaled => (hx hk).value.mul (hfactor hk) scaled).bind
      fun value hvalue hk => isFinite_some (hvalue hk) (hu hk u rfl)

end Quantity

/-- What the arithmetic of quantities keeps: that they are finite, as long as units are not zero. -/
theorem cellArithmetic (known : Prop) :
    CellArithmetic (known → Quantity.IsFinite ·) (known → Quantity.IsInvertible ·)
      (known → ∀ u ∈ ·, u.factor.IsFinite) (Fault.IsAllowed known) where
  contained _ := .inl
  count x negative finite infinite := by
    refine .inr ⟨rfl, fun hk => ?_⟩
    have := (finite hk).value
    rw [infinite] at this
    exact this
  decimal _ _ := Quantity.isFinite_ofScalar trivial
  neg _ := Quantity.neg_yields
  add _ _ := Quantity.add_yields
  mul _ _ := Quantity.mul_yields
  div _ _ := Quantity.div_yields
  pow _ _ := Quantity.pow_yields
  attach _ _ := Quantity.attach_yields
  convert _ _ := Quantity.convert_yields

end CalcSheet
