import Mathlib.Algebra.Group.Pi.Basic
import Mathlib.Algebra.Group.Prod
import Mathlib.Algebra.Module.NatInt
import Mathlib.Data.Fin.VecNotation
import Mathlib.Tactic.FinCases
import CalcSheet.Proofs.Unit.Reading

/-!
# The algebra of units

Apart from their factors, units multiply, divide and have powers as the elements of an abelian group
do. Their measure, the exponents of the base dimensions and of the symbols, is a homomorphism into
an additive group. It says all about the dimensions and about the symbols but for their order, which
depends on the way in which a unit has been built up.
-/
namespace CalcSheet

namespace Dimensions

/-- The exponents of the base dimensions, as a vector. -/
def vector (d : Dimensions) : Fin 8 → ℤ :=
  ![d.length, d.mass, d.time, d.current, d.temperature, d.substance, d.luminosity, d.information]

variable (d e : Dimensions)

theorem vector_injective : Function.Injective vector := by
  intro d e same
  cases d
  cases e
  simpa [vector] using same

theorem vector_none : none.vector = 0 := by
  funext i
  fin_cases i <;> rfl

theorem vector_add : (d.add e).vector = d.vector + e.vector := by
  funext i
  fin_cases i <;> rfl

theorem vector_sub : (d.sub e).vector = d.vector - e.vector := by
  funext i
  fin_cases i <;> rfl

theorem vector_scale (n : ℤ) : (d.scale n).vector = n • d.vector := by
  funext i
  fin_cases i <;> exact Int.mul_comm _ n

end Dimensions

namespace PhysicalUnit
open Decimal (Signal)

variable {symbols symbols' : List (Text × Int)} {u w x v : PhysicalUnit} {m n : ℤ}

/-! ### Symbols as a finite map -/

theorem exponentOf_power (h : (symbols.map Prod.fst).Nodup) (s : Text) (n : ℤ) :
    exponentOf s ((symbols.map fun (t, e) => (t, e * n)).filter (·.2 ≠ 0))
      = n * exponentOf s symbols := by
  have keys : ((symbols.map fun (t, e) => (t, e * n)).map Prod.fst).Nodup := by
    simpa [Function.comp_def] using h
  rw [exponentOf_filter keys]
  clear h keys
  induction symbols with
  | nil => simp
  | cons y rest ih =>
    rw [List.map_cons, exponentOf_cons, exponentOf_cons, ih]
    by_cases same : s = y.1
    · simp only [if_pos same]
      exact Int.mul_comm _ _
    · simp only [if_neg same]

theorem IsReduced.power (h : IsReduced symbols) (n : ℤ) :
    IsReduced ((symbols.map fun (t, e) => (t, e * n)).filter (·.2 ≠ 0)) :=
  isReduced_filter (by simpa [Function.comp_def] using h.nodup)

/-- Symbols with the same exponents are the same but for their order. -/
theorem IsReduced.perm (h : IsReduced symbols) (h' : IsReduced symbols')
    (same : ∀ s, exponentOf s symbols = exponentOf s symbols') : symbols.Perm symbols' := by
  refine (List.perm_ext_iff_of_nodup (.of_map _ h.nodup) (.of_map _ h'.nodup)).2 ?_
  rintro ⟨s, e⟩
  rw [h.mem_iff, h'.mem_iff, same]

/-! ### Measures -/

/-- The exponents of the base dimensions, and those of all symbols. -/
abbrev Measure := (Fin 8 → ℤ) × (Text → ℤ)

def measure (u : PhysicalUnit) : Measure :=
  (u.dimensions.vector, fun s => exponentOf s u.symbols)

/-- A unit of the measure `μ`, with each of its symbols listed once. -/
structure HasMeasure (μ : Measure) (u : PhysicalUnit) : Prop where
  reduced : IsReduced u.symbols
  measure : u.measure = μ

variable {μ ν : Measure}

namespace HasMeasure

theorem mul (hu : u.HasMeasure μ) (hw : w.HasMeasure ν) :
    Yields (HasMeasure (μ + ν)) (fun _ => True) (u.mul w) := by
  refine .bind_any fun factor => ⟨hu.reduced.merge _ 1, ?_⟩
  rw [← hu.measure, ← hw.measure]
  refine Prod.ext (Dimensions.vector_add _ _) (funext fun s => ?_)
  change exponentOf s (mergeSymbols u.symbols w.symbols 1) = _
  rw [exponentOf_mergeSymbols hu.reduced hw.reduced, Int.one_mul]
  rfl

theorem div (hu : u.HasMeasure μ) (hw : w.HasMeasure ν) :
    Yields (HasMeasure (μ - ν)) (fun _ => True) (u.div w) := by
  refine .bind_any fun factor => ⟨hu.reduced.merge _ (-1), ?_⟩
  rw [← hu.measure, ← hw.measure]
  refine Prod.ext (Dimensions.vector_sub _ _) (funext fun s => ?_)
  change exponentOf s (mergeSymbols u.symbols w.symbols (-1)) = _
  rw [exponentOf_mergeSymbols hu.reduced hw.reduced, Int.neg_one_mul, ← sub_eq_add_neg]
  rfl

theorem pow (hu : u.HasMeasure μ) (n : ℤ) :
    Yields (HasMeasure (n • μ)) (fun _ => True) (u.pow n) := by
  refine .bind_any fun factor => ⟨hu.reduced.power n, ?_⟩
  rw [← hu.measure]
  refine Prod.ext (Dimensions.vector_scale _ n) (funext fun s => ?_)
  exact exponentOf_power hu.reduced.nodup s n

end HasMeasure

/-! ### Units that are built up -/

/-- Units that are read from names, and what becomes of them by multiplication, division and raising
to powers. -/
inductive IsBuilt : PhysicalUnit → Prop
  | read {t : Text} {u : PhysicalUnit} (parsed : parse t = .ok u) : IsBuilt u
  | mul {u w v : PhysicalUnit} (left : IsBuilt u) (right : IsBuilt w) (done : u.mul w = .ok v) :
      IsBuilt v
  | div {u w v : PhysicalUnit} (left : IsBuilt u) (right : IsBuilt w) (done : u.div w = .ok v) :
      IsBuilt v
  | pow {u v : PhysicalUnit} {n : ℤ} (base : IsBuilt u) (done : u.pow n = .ok v) : IsBuilt v

theorem isReduced_of_parse {t : Text} (parsed : parse t = .ok u) : IsReduced u.symbols := by
  obtain ⟨ps, y, read, rfl⟩ := (parse_outcome t).ok parsed
  obtain ⟨_, reading⟩ := read.exists_chain
  exact (totalSymbols_spec (isProper_of_denotes reading.powers.denotes)).1

/-- However a unit has been built up, each of its symbols is listed once, and not with exponent
zero. -/
theorem IsBuilt.isReduced (h : u.IsBuilt) : IsReduced u.symbols := by
  induction h with
  | read parsed => exact isReduced_of_parse parsed
  | mul _ _ done ihu ihw => exact ((HasMeasure.mul ⟨ihu, rfl⟩ ⟨ihw, rfl⟩).ok done).reduced
  | div _ _ done ihu ihw => exact ((HasMeasure.div ⟨ihu, rfl⟩ ⟨ihw, rfl⟩).ok done).reduced
  | pow _ done ih => exact ((HasMeasure.pow ⟨ih, rfl⟩ _).ok done).reduced

/-! ### Laws -/

/-- Units of the same dimensions with the same symbols, each with the same exponent. -/
structure IsLike (u w : PhysicalUnit) : Prop where
  dimensions : u.dimensions = w.dimensions
  symbols : u.symbols.Perm w.symbols

theorem HasMeasure.isLike (hu : u.HasMeasure μ) (hw : w.HasMeasure μ) : u.IsLike w := by
  have same : u.measure = w.measure := hu.measure.trans hw.measure.symm
  exact ⟨Dimensions.vector_injective (congrArg Prod.fst same),
    hu.reduced.perm hw.reduced fun s => congrFun (congrArg Prod.snd same) s⟩

/-- Two calculations come to units that are alike, where neither of them signals. -/
def ComeToLike (r r' : Except Signal PhysicalUnit) : Prop :=
  ∀ v v', r = .ok v → r' = .ok v' → v.IsLike v'

theorem comeToLike {r r' : Except Signal PhysicalUnit}
    (h : Yields (HasMeasure μ) (fun _ => True) r) (h' : Yields (HasMeasure ν) (fun _ => True) r')
    (same : μ = ν) : ComeToLike r r' := by
  subst same
  exact fun v v' done done' => (h.ok done).isLike (h'.ok done')

theorem dimensions_eq_of_conversionFactor {source target : Option PhysicalUnit} {f : Scalar}
    (converts : conversionFactor source target = .ok f) :
    dimensionsOf source = dimensionsOf target := by
  unfold conversionFactor at converts
  split at converts
  · exact nomatch converts
  · next same => exact Decidable.not_not.1 same

/-- Symbols are listed once, with exponents other than zero, and units obey the laws of an abelian
group and its powers, as far as their dimensions and symbols go. Only units of the same dimensions
are converted into each other. -/
theorem IsBuilt.laws (hu : u.IsBuilt) (hw : w.IsBuilt) (hx : x.IsBuilt) (m n : ℤ) :
    ((u.symbols.map Prod.fst).Nodup ∧ ∀ s ∈ u.symbols, s.2 ≠ 0) ∧
      ComeToLike (u.mul w) (w.mul u) ∧
      ComeToLike (do (← u.mul w).mul x) (do u.mul (← w.mul x)) ∧
      ComeToLike (do (← u.mul w).div w) (.ok u) ∧
      ComeToLike (u.div w) (do u.mul (← w.pow (-1))) ∧
      ComeToLike (do (← u.pow m).mul (← u.pow n)) (u.pow (m + n)) ∧
      ComeToLike (do (← u.pow m).pow n) (u.pow (m * n)) ∧
      ComeToLike (do (← u.mul w).pow n) (do (← u.pow n).mul (← w.pow n)) ∧
      (∀ v, u.pow 0 = .ok v → v.IsDimensionless ∧ v.symbols = []) ∧
      ∀ f, conversionFactor (some u) (some w) = .ok f → u.dimensions = w.dimensions := by
  have measured {v : PhysicalUnit} (h : v.IsBuilt) : v.HasMeasure v.measure := ⟨h.isReduced, rfl⟩
  replace hu := measured hu
  replace hw := measured hw
  replace hx := measured hx
  refine ⟨⟨hu.reduced.nodup, hu.reduced.ne_zero⟩, ?_, ?_, ?_, ?_, ?_, ?_, ?_, fun v done => ?_,
    fun f converts => dimensions_eq_of_conversionFactor converts⟩
  · exact comeToLike (hu.mul hw) (hw.mul hu) (add_comm _ _)
  · exact comeToLike ((hu.mul hw).bind fun _ h => h.mul hx) ((hw.mul hx).bind fun _ h => hu.mul h)
      (add_assoc _ _ _)
  · have self : Yields (HasMeasure u.measure) (fun _ => True) (.ok u : Except Signal _) := hu
    exact comeToLike ((hu.mul hw).bind fun _ h => h.div hw) self (add_sub_cancel_right _ _)
  · exact comeToLike (hu.div hw) ((hw.pow (-1)).bind fun _ h => hu.mul h)
      (by rw [neg_one_zsmul, sub_eq_add_neg])
  · exact comeToLike ((hu.pow m).bind fun _ h => (hu.pow n).bind fun _ h' => h.mul h')
      (hu.pow (m + n)) (add_zsmul _ _ _).symm
  · exact comeToLike ((hu.pow m).bind fun _ h => h.pow n) (hu.pow (m * n)) (mul_zsmul' _ _ _).symm
  · exact comeToLike ((hu.mul hw).bind fun _ h => h.pow n)
      ((hu.pow n).bind fun _ h => (hw.pow n).bind fun _ h' => h.mul h') (zsmul_add _ _ _)
  · have zero : v.HasMeasure 0 := by simpa using (hu.pow 0).ok done
    have blank : (⟨.none, v.factor, []⟩ : PhysicalUnit).HasMeasure 0 :=
      ⟨isReduced_nil, Prod.ext Dimensions.vector_none rfl⟩
    have empty := zero.isLike blank
    exact ⟨empty.dimensions, List.perm_nil.1 empty.symbols⟩

theorem IsBuilt.laws_kilometre_hour :
    ∃ km h v : PhysicalUnit, km.IsBuilt ∧ h.IsBuilt ∧ v.IsBuilt ∧ km.div h = .ok v ∧
      ∃ p q, km.mul h = .ok p ∧ p.symbols = [(['k', 'm'], 1), (['h'], 1)] ∧
        h.mul km = .ok q ∧ q.symbols = [(['h'], 1), (['k', 'm'], 1)] ∧
        p.IsLike q ∧ ComeToLike (p.mul v) (do km.mul (← h.mul v)) := by
  have calculated : ∃ km, parse ['k', 'm'] = .ok km ∧ ∃ h, parse ['h'] = .ok h ∧
      (∃ v, km.div h = .ok v ∧ True) ∧
      (∃ p, km.mul h = .ok p ∧ p.symbols = [(['k', 'm'], 1), (['h'], 1)]) ∧
      (∃ q, h.mul km = .ok q ∧ q.symbols = [(['h'], 1), (['k', 'm'], 1)]) := by
    decide +kernel
  obtain ⟨km, km_read, h, h_read, ⟨v, divided, -⟩, ⟨p, multiplied, p_symbols⟩,
    ⟨q, turned, q_symbols⟩⟩ := calculated
  have km_built := IsBuilt.read km_read
  have h_built := IsBuilt.read h_read
  have v_built := IsBuilt.div km_built h_built divided
  obtain ⟨-, commutative, associative, -⟩ := IsBuilt.laws km_built h_built v_built 2 (-3)
  rw [multiplied] at associative
  exact ⟨km, h, v, km_built, h_built, v_built, divided, p, q, multiplied, p_symbols, turned,
    q_symbols, commutative p q multiplied turned, associative⟩

end PhysicalUnit
end CalcSheet
