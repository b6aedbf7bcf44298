import CalcSheet.Proofs.Display.Shown
import CalcSheet.Proofs.Evaluation.Unrounded
import Mathlib.Tactic.FieldSimp

/-!
# Magnitudes of quantities

The magnitude of a quantity is its number of base units. Operations on quantities are the same
operations on magnitudes, however factors enter them: nothing is lost but by rounding.
-/
namespace CalcSheet
namespace Quantity
open PhysicalUnit

/-- A quantity is `m` base units, and its unit is not zero of them. -/
def HasMagnitude (q : Quantity) (m : ℚ) : Prop :=
  ∃ v f : ℚ, q.value.toRat? = some v ∧ (factorOf q.unit).toRat? = some f ∧ f ≠ 0 ∧ v * f = m

variable {x y z : Quantity} {a b v f g : ℚ} {u : PhysicalUnit} {source target : Option PhysicalUnit}
  {value factor : Scalar} {n : Int}

theorem hasMagnitude_ofScalar (h : value.toRat? = some v) : (ofScalar value).HasMagnitude v :=
  ⟨v, 1, h, Scalar.toRat?_one, one_ne_zero, mul_one v⟩

theorem hasMagnitude_mk {unit : Option PhysicalUnit} (hv : value.toRat? = some v)
    (hf : (factorOf unit).toRat? = some f) (nonzero : f ≠ 0) :
    HasMagnitude ⟨value, unit⟩ (v * f) :=
  ⟨v, f, hv, hf, nonzero, rfl⟩

theorem factor_eq_one (plain : source = none) (hf : (factorOf source).toRat? = some f) : f = 1 := by
  subst plain
  exact (Option.some.inj (Scalar.toRat?_one.symm.trans hf)).symm

/-- A conversion factor is the quotient of the factors, also where it is not calculated. -/
theorem toRat?_of_conversionFactorBy (hf : (factorOf source).toRat? = some f)
    (hg : (factorOf target).toRat? = some g) (nonzero : g ≠ 0)
    (done : conversionFactorBy .exact source target = .ok factor) :
    factor.toRat? = some (f / g) := by
  unfold conversionFactorBy at done
  split at done
  · exact nomatch done
  · obtain ⟨same, compared, done⟩ := bind_eq_ok (mapError_eq_ok done)
    split at done
    · next equal =>
      obtain rfl := Except.ok.inj done
      rw [equal] at compared
      rw [Scalar.toRat?_eq_of_equal hf hg compared, div_self nonzero]
      exact Scalar.toRat?_one
    · exact Arithmetic.toRat?_div done hf hg

theorem hasMagnitude_collapseBy (hv : value.toRat? = some v) (hf : u.factor.toRat? = some f)
    (nonzero : f ≠ 0) (done : collapseBy .exact value u = .ok z) : z.HasMagnitude (v * f) := by
  unfold collapseBy at done
  split at done
  · obtain ⟨scaled, multiplied, done⟩ := bind_eq_ok done
    obtain rfl := Except.ok.inj done
    exact hasMagnitude_ofScalar (Arithmetic.toRat?_mul (mapError_eq_ok multiplied) hv hf)
  · obtain rfl := Except.ok.inj done
    exact hasMagnitude_mk hv hf nonzero

theorem HasMagnitude.addBy (hx : x.HasMagnitude a) (hy : y.HasMagnitude b)
    (done : x.addBy .exact y = .ok z) : z.HasMagnitude (a + b) := by
  obtain ⟨v, f, hv, hf, nonzero, rfl⟩ := hx
  obtain ⟨w, g, hw, hg, -, rfl⟩ := hy
  unfold Quantity.addBy at done
  split at done
  · exact nomatch done
  · split at done
    · next plain =>
      obtain ⟨sum, added, done⟩ := bind_eq_ok done
      obtain rfl := Except.ok.inj done
      rw [factor_eq_one (Option.isNone_iff_eq_none.1 plain.1) hf,
        factor_eq_one (Option.isNone_iff_eq_none.1 plain.2) hg, mul_one, mul_one]
      exact hasMagnitude_ofScalar (Arithmetic.toRat?_add (mapError_eq_ok added) hv hw)
    · obtain ⟨factor, converted, done⟩ := bind_eq_ok done
      obtain ⟨scaled, multiplied, done⟩ := bind_eq_ok done
      obtain ⟨sum, added, done⟩ := bind_eq_ok done
      obtain rfl := Except.ok.inj done
      have hfactor := toRat?_of_conversionFactorBy hg hf nonzero (mapError_eq_ok converted)
      have hscaled := Arithmetic.toRat?_mul (mapError_eq_ok multiplied) hw hfactor
      have hsum := Arithmetic.toRat?_add (mapError_eq_ok added) hv hscaled
      have rescaled : (v + w * (g / f)) * f = v * f + w * g := by field_simp
      exact rescaled ▸ hasMagnitude_mk hsum hf nonzero

theorem HasMagnitude.negBy (hx : x.HasMagnitude a) (done : x.negBy .exact = .ok z) :
    z.HasMagnitude (-a) := by
  obtain ⟨v, f, hv, hf, nonzero, rfl⟩ := hx
  obtain ⟨value, negated, done⟩ := bind_eq_ok done
  obtain rfl := Except.ok.inj done
  have hvalue := Arithmetic.toRat?_neg (mapError_eq_ok negated) hv
  exact neg_mul v f ▸ hasMagnitude_mk hvalue hf nonzero

theorem HasMagnitude.subBy (hx : x.HasMagnitude a) (hy : y.HasMagnitude b)
    (done : x.subBy .exact y = .ok z) : z.HasMagnitude (a - b) := by
  obtain ⟨opposite, negated, done⟩ := bind_eq_ok done
  exact sub_eq_add_neg a b ▸ hx.addBy (hy.negBy negated) done

theorem HasMagnitude.mulBy (hx : x.HasMagnitude a) (hy : y.HasMagnitude b)
    (done : x.mulBy .exact y = .ok z) : z.HasMagnitude (a * b) := by
  obtain ⟨v, f, hv, hf, hf0, rfl⟩ := hx
  obtain ⟨w, g, hw, hg, hg0, rfl⟩ := hy
  obtain ⟨value, multiplied, done⟩ := bind_eq_ok done
  have hvalue := Arithmetic.toRat?_mul (mapError_eq_ok multiplied) hv hw
  cases hu : x.unit with
  | none =>
    simp only [hu] at done
    obtain rfl := Except.ok.inj done
    rw [factor_eq_one hu hf, mul_one, ← mul_assoc]
    exact hasMagnitude_mk hvalue hg hg0
  | some u =>
    cases hw' : y.unit with
    | none =>
      simp only [hu, hw'] at done
      obtain rfl := Except.ok.inj done
      rw [factor_eq_one hw' hg, mul_one, mul_right_comm]
      exact hasMagnitude_mk hvalue (hu ▸ hf) hf0
    | some w' =>
      simp only [hu, hw'] at done
      obtain ⟨product, multipliedUnit, done⟩ := bind_eq_ok done
      obtain ⟨factor, multipliedFactor, same⟩ := bind_eq_ok (mapError_eq_ok multipliedUnit)
      obtain rfl := Except.ok.inj same
      rw [hu] at hf
      rw [hw'] at hg
      have hfactor := Arithmetic.toRat?_mul multipliedFactor hf hg
      rw [mul_mul_mul_comm]
      exact hasMagnitude_collapseBy hvalue hfactor (mul_ne_zero hf0 hg0) done

theorem HasMagnitude.divBy (hx : x.HasMagnitude a) (hy : y.HasMagnitude b)
    (done : x.divBy .exact y = .ok z) : z.HasMagnitude (a / b) := by
  obtain ⟨v, f, hv, hf, hf0, rfl⟩ := hx
  obtain ⟨w, g, hw, hg, hg0, rfl⟩ := hy
  obtain ⟨zero, -, done⟩ := bind_eq_ok done
  split at done
  · exact nomatch done
  obtain ⟨value, divided, done⟩ := bind_eq_ok done
  have hvalue := Arithmetic.toRat?_div (mapError_eq_ok divided) hv hw
  rw [mul_div_mul_comm]
  cases hw' : y.unit with
  | none =>
    simp only [hw'] at done
    obtain rfl := Except.ok.inj done
    rw [factor_eq_one hw' hg, div_one]
    exact hasMagnitude_mk hvalue hf hf0
  | some w' =>
    rw [hw'] at hg
    cases hu : x.unit with
    | none =>
      simp only [hu, hw'] at done
      obtain ⟨reciprocal, invertedUnit, done⟩ := bind_eq_ok done
      obtain ⟨factor, invertedFactor, same⟩ := bind_eq_ok (mapError_eq_ok invertedUnit)
      obtain rfl := Except.ok.inj same
      have hfactor := Arithmetic.toRat?_pow invertedFactor hg (Scalar.toInt?_ofInt (-1))
      rw [factor_eq_one hu hf, one_div, ← zpow_neg_one]
      exact hasMagnitude_collapseBy hvalue hfactor (zpow_ne_zero _ hg0) done
    | some u =>
      simp only [hu, hw'] at done
      obtain ⟨quotient, dividedUnit, done⟩ := bind_eq_ok done
      obtain ⟨factor, dividedFactor, same⟩ := bind_eq_ok (mapError_eq_ok dividedUnit)
      obtain rfl := Except.ok.inj same
      rw [hu] at hf
      have hfactor := Arithmetic.toRat?_div dividedFactor hf hg
      exact hasMagnitude_collapseBy hvalue hfactor (div_ne_zero hf0 hg0) done

theorem HasMagnitude.powBy (hx : x.HasMagnitude a) (hn : y.value.toRat? = some (n : ℚ))
    (done : x.powBy .exact y = .ok z) : z.HasMagnitude (a ^ n) := by
  have integer := Scalar.toInt?_eq_some_iff.2 hn
  obtain ⟨v, f, hv, hf, nonzero, rfl⟩ := hx
  unfold Quantity.powBy at done
  split at done
  · exact nomatch done
  obtain ⟨invertsZero, -, done⟩ := bind_eq_ok done
  split at done
  · exact nomatch done
  rw [mul_zpow]
  cases hu : x.unit with
  | none =>
    simp only [hu] at done
    obtain ⟨value, raised, done⟩ := bind_eq_ok done
    obtain rfl := Except.ok.inj done
    rw [factor_eq_one hu hf, one_zpow, mul_one]
    exact hasMagnitude_ofScalar (Arithmetic.toRat?_pow (mapError_eq_ok raised) hv integer)
  | some u =>
    simp only [hu] at done
    rw [hu] at hf
    obtain ⟨m?, whole, done⟩ := bind_eq_ok done
    cases m? with
    | none => exact nomatch done
    | some m =>
      obtain rfl : m = n :=
        Option.some.inj ((toInt?_of_wholeExponent? whole).symm.trans integer)
      dsimp only at done
      split at done
      · next zero =>
        obtain rfl := Except.ok.inj done
        rw [zero, zpow_zero, zpow_zero, mul_one]
        exact hasMagnitude_ofScalar Scalar.toRat?_one
      · obtain ⟨value, raised, done⟩ := bind_eq_ok done
        obtain ⟨unit, raisedUnit, done⟩ := bind_eq_ok done
        obtain ⟨factor, raisedFactor, same⟩ := bind_eq_ok (mapError_eq_ok raisedUnit)
        obtain rfl := Except.ok.inj same
        obtain rfl := Except.ok.inj done
        have integer := Scalar.toInt?_ofInt m
        have hvalue := Arithmetic.toRat?_pow (mapError_eq_ok raised) hv integer
        have hfactor := Arithmetic.toRat?_pow raisedFactor hf integer
        exact hasMagnitude_mk hvalue hfactor (zpow_ne_zero m nonzero)

theorem HasMagnitude.attachBy (hx : x.HasMagnitude a) (hf : u.factor.toRat? = some f)
    (nonzero : f ≠ 0) (done : x.attachBy .exact (some u) = .ok z) : z.HasMagnitude (a * f) := by
  obtain ⟨v, g, hv, hg, -, rfl⟩ := hx
  simp only [Quantity.attachBy] at done
  split at done
  · exact nomatch done
  next plain =>
  rw [factor_eq_one (by simpa using plain) hg, mul_one]
  split at done
  · obtain ⟨scaled, multiplied, done⟩ := bind_eq_ok done
    obtain rfl := Except.ok.inj done
    exact hasMagnitude_ofScalar (Arithmetic.toRat?_mul (mapError_eq_ok multiplied) hv hf)
  · obtain rfl := Except.ok.inj done
    exact hasMagnitude_mk hv hf nonzero

/-- A number that is rescaled to another unit has the same magnitude. -/
theorem hasMagnitude_rescaled {scaled : Scalar} (hv : value.toRat? = some v)
    (hf : (factorOf source).toRat? = some f) (hg : (factorOf target).toRat? = some g)
    (nonzero : g ≠ 0) (converted : conversionFactorBy .exact source target = .ok factor)
    (multiplied : Arithmetic.exact.mul value factor = .ok scaled) :
    HasMagnitude ⟨scaled, target⟩ (v * f) := by
  have hfactor := toRat?_of_conversionFactorBy hf hg nonzero converted
  have hscaled := Arithmetic.toRat?_mul multiplied hv hfactor
  have rescaled : v * (f / g) * g = v * f := by field_simp
  exact rescaled ▸ hasMagnitude_mk hscaled hg nonzero

theorem HasMagnitude.convertBy (hx : x.HasMagnitude a) (hg : u.factor.toRat? = some g)
    (nonzero : g ≠ 0) (done : x.convertBy .exact (some u) = .ok z) :
    z.unit = some u ∧ z.HasMagnitude a := by
  obtain ⟨v, f, hv, hf, -, rfl⟩ := hx
  obtain ⟨factor, converted, done⟩ := bind_eq_ok done
  obtain ⟨scaled, multiplied, done⟩ := bind_eq_ok done
  obtain rfl := Except.ok.inj done
  exact ⟨rfl, hasMagnitude_rescaled hv hf hg nonzero (mapError_eq_ok converted)
    (mapError_eq_ok multiplied)⟩

theorem exists_toRat?_of_isInvertible (h : value.IsInvertible) :
    ∃ g, value.toRat? = some g ∧ g ≠ 0 := by
  obtain ⟨x, rfl⟩ := h.isFinite.eq_finite
  exact ⟨x.toRat, rfl, mt Decimal.toRat_eq_zero.1 h⟩

theorem HasMagnitude.inDerivedUnitBy (hx : x.HasMagnitude a)
    (done : x.inDerivedUnitBy .exact = .ok z) : z.HasMagnitude a := by
  unfold Quantity.inDerivedUnitBy at done
  split at done
  · exact Except.ok.inj done ▸ hx
  next u hu =>
  split at done
  · exact Except.ok.inj done ▸ hx
  split at done
  · exact Except.ok.inj done ▸ hx
  next d derived =>
  split at done
  · exact nomatch done
  · exact Except.ok.inj done ▸ hx
  next factor converted =>
  obtain ⟨scaled, multiplied, done⟩ := bind_eq_ok done
  obtain rfl := Except.ok.inj done
  obtain ⟨v, f, hv, hf, -, rfl⟩ := hx
  obtain ⟨g, hg, nonzero⟩ := exists_toRat?_of_isInvertible (isInvertible_derived? derived)
  rw [hu] at hf
  exact hasMagnitude_rescaled hv hf hg nonzero converted multiplied

/-- Where nothing is rounded, operations on quantities are the operations on their magnitudes. A
unit that is attached multiplies the magnitude by its factor; neither a conversion, which yields the
unit that is asked for, nor the step to a derived unit changes it. -/
theorem hasMagnitude_of_isUnrounded (hx : x.HasMagnitude a) (hy : y.HasMagnitude b) :
    (∀ z, x.add y = .ok z → IsUnrounded (x.addBy · y) → z.HasMagnitude (a + b))
    ∧ (∀ z, x.sub y = .ok z → IsUnrounded (x.subBy · y) → z.HasMagnitude (a - b))
    ∧ (∀ z, x.mul y = .ok z → IsUnrounded (x.mulBy · y) → z.HasMagnitude (a * b))
    ∧ (∀ z, x.div y = .ok z → IsUnrounded (x.divBy · y) → z.HasMagnitude (a / b))
    ∧ (∀ (n : ℤ) z, y.value.toRat? = some (n : ℚ) → x.pow y = .ok z →
      IsUnrounded (x.powBy · y) → z.HasMagnitude (a ^ n))
    ∧ (∀ u f z, u.factor.toRat? = some f → f ≠ 0 → x.attach (some u) = .ok z →
      IsUnrounded (x.attachBy · (some u)) → z.HasMagnitude (a * f))
    ∧ (∀ u f z, u.factor.toRat? = some f → f ≠ 0 → x.convert (some u) = .ok z →
      IsUnrounded (x.convertBy · (some u)) → z.unit = some u ∧ z.HasMagnitude a)
    ∧ (∀ z, Displayed.inDerivedUnit x = .ok z → IsUnrounded (x.inDerivedUnitBy ·) →
      z.HasMagnitude a) := by
  refine ⟨fun z done same => hx.addBy hy (same.trans ((addBy_working x y).trans done)),
    fun z done same => hx.subBy hy (same.trans ((subBy_working x y).trans done)),
    fun z done same => hx.mulBy hy (same.trans ((mulBy_working x y).trans done)),
    fun z done same => hx.divBy hy (same.trans ((divBy_working x y).trans done)),
    fun n z integer done same =>
      hx.powBy integer (same.trans ((powBy_working x y).trans done)),
    fun u f z hf nonzero done same =>
      hx.attachBy hf nonzero (same.trans ((attachBy_working x (some u)).trans done)),
    fun u f z hf nonzero done same =>
      hx.convertBy hf nonzero (same.trans ((convertBy_working x (some u)).trans done)),
    fun z done same => hx.inDerivedUnitBy (same.trans ((inDerivedUnitBy_working x).trans done))⟩

/-- Two forces, in units of different factors, and a power of one of them. -/
theorem hasMagnitude_of_isUnrounded_force :
    let force : Dimensions := ⟨1, 1, -2, 0, 0, 0, 0, 0⟩
    let thousand : PhysicalUnit :=
      ⟨force, .finite ⟨false, 1, 3⟩, [(['k', 'g'], 1), (['k', 'm'], 1), (['s'], -2)]⟩
    let newton : PhysicalUnit := ⟨force, .one, [(['N'], 1)]⟩
    let x : Quantity := ⟨.ofInt 5, some thousand⟩
    let y : Quantity := ⟨.ofInt 500, some newton⟩
    let minusTwo : Quantity := .ofDecimal (.ofInt (-2))
    x.HasMagnitude 5000 ∧ y.HasMagnitude 500 ∧ minusTwo.HasMagnitude (-2)
      ∧ (∃ z, x.add y = .ok z ∧ z.HasMagnitude (5000 + 500))
      ∧ (∃ z, x.div y = .ok z ∧ z.HasMagnitude (5000 / 500))
      ∧ (∃ z, x.pow minusTwo = .ok z ∧ z.HasMagnitude (5000 ^ (-2 : Int)))
      ∧ (∃ z, x.convert (some newton) = .ok z ∧ z.unit = some newton ∧ z.HasMagnitude 5000)
      ∧ (∃ z, Displayed.inDerivedUnit x = .ok z ∧ z.HasMagnitude 5000) := by
  intro force thousand newton x y minusTwo
  have hx : x.HasMagnitude 5000 :=
    ⟨5, 1000, by decide +kernel, by decide +kernel, by decide, by norm_num⟩
  have hy : y.HasMagnitude 500 :=
    ⟨500, 1, by decide +kernel, by decide +kernel, by decide, by norm_num⟩
  have hn : minusTwo.HasMagnitude (-2) :=
    ⟨-2, 1, by decide +kernel, by decide +kernel, by decide, by norm_num⟩
  obtain ⟨add, -, -, div, -, -, convert, derived⟩ := hasMagnitude_of_isUnrounded hx hy
  obtain ⟨-, -, -, -, pow, -, -, -⟩ := hasMagnitude_of_isUnrounded hx hn
  obtain ⟨z, sum, exactSum⟩ :=
    exists_isUnrounded (x.addBy · y) (addBy_working x y) (by decide +kernel)
  obtain ⟨q, quotient, exactQuotient⟩ :=
    exists_isUnrounded (x.divBy · y) (divBy_working x y) (by decide +kernel)
  obtain ⟨p, power, exactPower⟩ :=
    exists_isUnrounded (x.powBy · minusTwo) (powBy_working x minusTwo) (by decide +kernel)
  obtain ⟨c, converted, exactConverted⟩ :=
    exists_isUnrounded (x.convertBy · (some newton)) (convertBy_working x (some newton))
      (by decide +kernel)
  obtain ⟨d, derived', exactDerived⟩ :=
    exists_isUnrounded (x.inDerivedUnitBy ·) (inDerivedUnitBy_working x) (by decide +kernel)
  exact ⟨hx, hy, hn, ⟨z, sum, add z sum exactSum⟩, ⟨q, quotient, div q quotient exactQuotient⟩,
    ⟨p, power, pow (-2) p (by decide +kernel) power exactPower⟩,
    ⟨c, converted, convert newton 1 c (by decide +kernel) (by decide) converted exactConverted⟩,
    ⟨d, derived', derived d derived' exactDerived⟩⟩

end Quantity
end CalcSheet
