import CalcSheet.Proofs.Decimal.Quotients
import CalcSheet.Proofs.Evaluation.Unrounded
import CalcSheet.Proofs.Scalar.Finite
import Mathlib.Tactic.FieldSimp

/-!
# There and back

A conversion multiplies by a quotient of factors, so it rounds twice at most. Converted to another
unit and back, a number is off by no more than four roundings make it; and a number that has been
converted to a unit is not changed by another conversion to it.
-/
namespace CalcSheet
open Decimal (Signal IsNear IsNormal IsSafe halfUnit)

instance : DecidablePred IsNormal := fun _ => inferInstanceAs (Decidable (_ ≤ _))

namespace Arithmetic
variable {r : Except Signal Scalar} {x y : Decimal}

/-- A result that has lost digits below the exponent range is reported, as one above it is. -/
def orReport (ideal? : Option ℚ) (r : Except Signal Scalar) : Except Signal Scalar := do
  let z ← r
  if ∀ v ∈ ideal?, z.toRat? = some v ∨ IsNormal v then pure z else .error .overflow

/-- The operations at the working precision, with a report where they leave the exponent range at
either end. -/
def reporting : Arithmetic where
  neg x := orReport (x.toRat?.map (- ·)) (working.neg x)
  add x y := orReport (Option.map₂ (· + ·) x.toRat? y.toRat?) (working.add x y)
  mul x y := orReport (Option.map₂ (· * ·) x.toRat? y.toRat?) (working.mul x y)
  div x y := orReport (Option.map₂ (· / ·) x.toRat? y.toRat?) (working.div x y)
  pow x y := orReport (Option.map₂ (· ^ ·) x.toRat? y.toInt?) (working.pow x y)

theorem exists_safe_of_orReport {v : ℚ} {r : Except Signal Decimal}
    (only : Decimal.OverflowsOnly r)
    (inside : orReport (some v) (Scalar.finite <$> r) ≠ .error .overflow) :
    ∃ z, r = .ok z ∧ IsSafe v z ∧ orReport (some v) (Scalar.finite <$> r) = .ok (.finite z) := by
  cases r with
  | error s =>
    obtain rfl := only s rfl
    exact absurd rfl inside
  | ok z =>
    have safe : ∀ w ∈ some v, (Scalar.finite z).toRat? = some w ∨ IsNormal w := by
      by_contra lost
      exact inside (if_neg lost)
    exact ⟨z, rfl, (safe v rfl).imp_left Option.some.inj, if_pos safe⟩

end Arithmetic

namespace Quantity
open PhysicalUnit

/-- Nothing in a calculation leaves the exponent range. -/
def StaysInRange {α : Type} (calculation : Arithmetic → Except Fault α) : Prop :=
  calculation .reporting ≠ .error (.signal .overflow)

instance {α : Type} [DecidableEq α] (calculation : Arithmetic → Except Fault α) :
    Decidable (StaysInRange calculation) := inferInstanceAs (Decidable (_ ≠ _))

variable {x : Quantity} {u w : PhysicalUnit} {f g v z : Decimal}

theorem conversionFactorBy_eq (r : Arithmetic) (same : u.dimensions = w.dimensions)
    (hf : u.factor = .finite f) (hg : w.factor = .finite g) :
    conversionFactorBy r (some u) (some w) = if f.SameValue g then .ok .one
      else (r.div (.finite f) (.finite g)).mapError .signal := by
  have compatible : ¬ dimensionsOf (some u) ≠ dimensionsOf (some w) := not_not.2 same
  unfold conversionFactorBy
  rw [if_neg compatible]
  change ((u.factor.equal w.factor >>= fun equal => if equal = true then pure .one
    else r.div u.factor w.factor).mapError ConversionFault.signal) = _
  rw [hf, hg]
  by_cases equal : f.SameValue g
  · simp [Scalar.equal, equal]
    rfl
  · simp [Scalar.equal, equal]
    rfl

/-- The factor of a conversion has the relative error of one rounding. -/
theorem exists_conversionFactor (same : u.dimensions = w.dimensions) (hf : u.factor = .finite f)
    (hg : w.factor = .finite g) (pos : 0 < g.toRat)
    (inside : conversionFactorBy .reporting (some u) (some w) ≠ .error (.signal .overflow)) :
    ∃ q : Decimal, conversionFactor (some u) (some w) = .ok (.finite q)
      ∧ conversionFactorBy .reporting (some u) (some w) = .ok (.finite q)
      ∧ IsNear (halfUnit workingPrecision) q.toRat (f.toRat / g.toRat) := by
  have nonzero : ¬ g.IsZero := fun zero => pos.ne' (Decimal.toRat_eq_zero.2 zero)
  change ∃ q : Decimal, conversionFactorBy .working (some u) (some w) = .ok (.finite q) ∧ _
  rw [conversionFactorBy_eq .reporting same hf hg] at inside
  rw [conversionFactorBy_eq .reporting same hf hg, conversionFactorBy_eq .working same hf hg]
  by_cases equal : f.SameValue g
  · simp only [equal, ↓reduceIte]
    refine ⟨.one, rfl, rfl, ?_⟩
    rw [equal.toRat_eq, div_self pos.ne', Decimal.toRat_one]
    exact .refl (Decimal.halfUnit_nonneg _) 1
  · simp only [equal, ↓reduceIte] at inside ⊢
    obtain ⟨q, done, safe, reported⟩ := Arithmetic.exists_safe_of_orReport
      (Decimal.overflowsOnly_div workingPrecision f nonzero)
      fun overflow => inside (congrArg (Except.mapError ConversionFault.signal) overflow)
    refine ⟨q, ?_, congrArg (Except.mapError ConversionFault.signal) reported,
      Decimal.isNear_div (by decide) done safe⟩
    change (Scalar.finite <$> f.div workingPrecision g).mapError _ = _
    rw [done]
    rfl

/-- The relative error of two roundings. -/
def twoUnits : ℚ := halfUnit workingPrecision + halfUnit workingPrecision
  + halfUnit workingPrecision * halfUnit workingPrecision

/-- A conversion has the relative error of two roundings, and its result is a rounded one. -/
theorem exists_convert (hu : x.unit = some u) (hv : x.value = .finite v)
    (same : u.dimensions = w.dimensions) (hf : u.factor = .finite f) (hg : w.factor = .finite g)
    (pos : 0 < g.toRat) (inside : StaysInRange (x.convertBy · (some w))) :
    ∃ z : Decimal, x.convert (some w) = .ok ⟨.finite z, some w⟩
      ∧ z.round workingPrecision = .ok z
      ∧ IsNear twoUnits z.toRat (v.toRat * (f.toRat / g.toRat)) := by
  have first : conversionFactorBy .reporting (some u) (some w) ≠ .error (.signal .overflow) := by
    intro overflow
    refine inside ?_
    change (ofConversion (conversionFactorBy .reporting x.unit (some w)) >>= _) = _
    rw [hu, overflow]
    rfl
  obtain ⟨q, done, reported, near⟩ := exists_conversionFactor same hf hg pos first
  have second : Arithmetic.reporting.mul (.finite v) (.finite q) ≠ .error .overflow := by
    intro overflow
    refine inside ?_
    change (ofConversion (conversionFactorBy .reporting x.unit (some w)) >>= fun factor =>
      lift (Arithmetic.reporting.mul x.value factor) >>= _) = _
    rw [hu, reported, hv]
    change (lift (Arithmetic.reporting.mul (.finite v) (.finite q)) >>= _) = _
    rw [overflow]
    rfl
  obtain ⟨z, multiplied, safe, -⟩ :=
    Arithmetic.exists_safe_of_orReport (Decimal.overflowsOnly_mul workingPrecision v q) second
  refine ⟨z, ?_, Decimal.round_of_round (by decide) multiplied, ?_⟩
  · change (ofConversion (conversionFactor x.unit (some w)) >>= fun factor =>
      lift (x.value.mul workingPrecision factor) >>= _) = _
    rw [hu, done, hv]
    change (lift (Scalar.finite <$> v.mul workingPrecision q) >>= _) = _
    rw [multiplied]
    rfl
  · exact (Decimal.isNear_mul (by decide) multiplied safe).trans (Decimal.halfUnit_nonneg _)
      (near.mul_left v.toRat)

theorem sameValue_refl (x : Decimal) : x.SameValue x := by
  unfold Decimal.SameValue
  split
  · next zero => exact ⟨zero.elim id id, zero.elim id id⟩
  · exact ⟨rfl, rfl⟩

/-- A number that has been rounded is left alone by a conversion to its own unit. -/
theorem convert_self (hg : w.factor = .finite g) (rounded : z.round workingPrecision = .ok z) :
    convert ⟨.finite z, some w⟩ (some w) = .ok ⟨.finite z, some w⟩ := by
  have one : conversionFactor (some w) (some w) = .ok .one := by
    refine (conversionFactorBy_eq .working rfl hg hg).trans ?_
    exact if_pos (sameValue_refl g)
  have product : z.mul workingPrecision .one = .ok z := by
    change Decimal.round workingPrecision
      ⟨z.negative != false, z.coefficient * 1, z.exponent + 0⟩ = _
    rwa [Bool.bne_false, Nat.mul_one, Int.add_zero]
  change (ofConversion (conversionFactor (some w) (some w)) >>= fun factor =>
    lift (Scalar.mul workingPrecision (.finite z) factor) >>= _) = _
  rw [one]
  change (lift (Scalar.finite <$> z.mul workingPrecision .one) >>= _) = _
  rw [product]
  rfl

/-- Where no calculation leaves the exponent range, a number that is converted to another unit and
back has a relative error of at most three units of the forty-ninth digit. Another conversion to
the same unit changes nothing. -/
theorem convert_back {v f g : ℚ} (hu : x.unit = some u) (hv : x.value.toRat? = some v)
    (same : u.dimensions = w.dimensions) (hf : u.factor.toRat? = some f)
    (hg : w.factor.toRat? = some g) (posf : 0 < f) (posg : 0 < g)
    (there : StaysInRange (x.convertBy · (some w)))
    (back : ∀ z, x.convert (some w) = .ok z → StaysInRange (z.convertBy · (some u))) :
    ∃ (z y : Quantity) (v' : ℚ), x.convert (some w) = .ok z ∧ z.convert (some u) = .ok y
      ∧ y.unit = some u ∧ y.value.toRat? = some v' ∧ |v' - v| ≤ 3 * 10 ^ (-49 : ℤ) * |v|
      ∧ z.convert (some w) = .ok z := by
  obtain ⟨v, value, rfl⟩ := Scalar.exists_finite_of_toRat? hv
  obtain ⟨f, source, rfl⟩ := Scalar.exists_finite_of_toRat? hf
  obtain ⟨g, target, rfl⟩ := Scalar.exists_finite_of_toRat? hg
  obtain ⟨z, converted, rounded, near⟩ := exists_convert hu value same source target posg there
  obtain ⟨y, returned, -, near'⟩ :=
    exists_convert rfl rfl same.symm target source posf (back _ converted)
  refine ⟨_, _, y.toRat, converted, returned, rfl, rfl, ?_, convert_self target rounded⟩
  have nonneg : 0 ≤ twoUnits := by
    have half := Decimal.halfUnit_nonneg workingPrecision
    unfold twoUnits
    positivity
  have whole : g.toRat / f.toRat * (v.toRat * (f.toRat / g.toRat)) = v.toRat := by
    field_simp
  have scaled := near.mul_left (g.toRat / f.toRat)
  rw [whole, mul_comm _ z.toRat] at scaled
  refine (near'.trans nonneg scaled).mono ?_
  norm_num [twoUnits, halfUnit, workingPrecision]

/-- Five feet in yards, which have no finite numeral, and back. -/
theorem convert_back_foot :
    let length : Dimensions := ⟨1, 0, 0, 0, 0, 0, 0, 0⟩
    let foot : PhysicalUnit := ⟨length, .finite ⟨false, 3048, -4⟩, [(['f', 't'], 1)]⟩
    let yard : PhysicalUnit := ⟨length, .finite ⟨false, 9144, -4⟩, [(['y', 'd'], 1)]⟩
    let x : Quantity := ⟨.ofInt 5, some foot⟩
    x.value.toRat? = some 5 ∧ foot.factor.toRat? = some 0.3048 ∧ yard.factor.toRat? = some 0.9144
      ∧ StaysInRange (x.convertBy · (some yard))
      ∧ (∀ z, x.convert (some yard) = .ok z → StaysInRange (z.convertBy · (some foot)))
      ∧ ∃ (z y : Quantity) (v' : ℚ), x.convert (some yard) = .ok z
        ∧ z.convert (some foot) = .ok y ∧ y.unit = some foot ∧ y.value.toRat? = some v'
        ∧ |v' - 5| ≤ 3 * 10 ^ (-49 : ℤ) * |5| ∧ z.convert (some yard) = .ok z := by
  intro length foot yard x
  have hv : x.value.toRat? = some 5 := by decide +kernel
  have hf : foot.factor.toRat? = some 0.3048 := by decide +kernel
  have hg : yard.factor.toRat? = some 0.9144 := by decide +kernel
  have there : StaysInRange (x.convertBy · (some yard)) := by decide +kernel
  have back : ∀ z, x.convert (some yard) = .ok z → StaysInRange (z.convertBy · (some foot)) := by
    decide +kernel
  exact ⟨hv, hf, hg, there, back,
    convert_back rfl hv rfl hf hg (by norm_num) (by norm_num) there back⟩

end Quantity
end CalcSheet
