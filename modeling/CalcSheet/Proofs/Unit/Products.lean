import Mathlib.Algebra.BigOperators.Group.List.Basic
import CalcSheet.Proofs.Evaluation.Dimensions
import CalcSheet.Proofs.Unit.Parsing
import CalcSheet.Proofs.Unit.Symbols

/-!
# Products of powers of units

What a product of powers of catalogue units consists of. Its dimensions and symbols are sums over
the powers; only its factor is calculated, and only the calculation of the factor can fail.
-/
namespace CalcSheet

/-- A unit of the catalogue has one symbol. -/
theorem Catalogue.symbols_of_find {name : Text} {u : PhysicalUnit} (found : find name = .ok u) :
    ∃ s, u.symbols = [(s, 1)] := by
  obtain ⟨e, -, rfl⟩ := exists_entry_of_find found
  exact ⟨e.symbol.toList, rfl⟩

namespace PhysicalUnit

/-- A power of a unit. -/
structure Power where
  unit : PhysicalUnit
  exponent : Int

namespace Power

def factor (p : Power) : Except Decimal.Signal Scalar :=
  p.unit.factor.pow workingPrecision (.ofInt p.exponent)

def dimensions (p : Power) : Dimensions := p.unit.dimensions.scale p.exponent

def symbols (p : Power) : List (Text × Int) :=
  (p.unit.symbols.map fun (s, e) => (s, e * p.exponent)).filter (·.2 ≠ 0)

/-- The exponent that a symbol has in the power. -/
def exponentOf (p : Power) (s : Text) : Int :=
  p.exponent * PhysicalUnit.exponentOf s p.unit.symbols

/-- The power is not the zeroth, and its unit has one symbol, as those of the catalogue have. -/
structure IsProper (p : Power) : Prop where
  symbol : ∃ s, p.unit.symbols = [(s, 1)]
  nonzero : p.exponent ≠ 0

end Power

/-- The factor of a product, calculated from left to right. -/
def totalFactor : List Power → Except Decimal.Signal Scalar
  | [] => .ok .one
  | p :: ps => do
      let first ← p.factor
      ps.foldlM (fun x q => do x.mul workingPrecision (← q.factor)) first

def totalDimensions (ps : List Power) : Dimensions := (ps.map (·.dimensions)).foldl .add .none

def totalExponent (s : Text) (ps : List Power) : Int := (ps.map (·.exponentOf s)).sum

/-- The symbols of a product, in the order in which they are first met. -/
def totalSymbols (ps : List Power) : List (Text × Int) :=
  ps.foldl (fun symbols p => mergeSymbols symbols p.symbols 1) []

/-- The product of some powers, where its factor has been calculated. -/
def unitOf (ps : List Power) (factor : Scalar) : PhysicalUnit :=
  ⟨totalDimensions ps, factor, totalSymbols ps⟩

/-- The product so far, which there is none of in the beginning. -/
def productOf (ps : List Power) (factor : Scalar) : Option PhysicalUnit :=
  if ps = [] then none else some (unitOf ps factor)

variable {ps : List Power} {p : Power} {x : Scalar} {s : Text}

/-! ### One more factor -/

theorem totalFactor_singleton (p : Power) : totalFactor [p] = p.factor := by
  simp only [totalFactor, List.foldlM_nil, bind_pure]

theorem totalFactor_append (nonempty : ps ≠ []) (more : List Power) :
    totalFactor (ps ++ more) = totalFactor ps >>= fun x =>
      more.foldlM (fun x q => do x.mul workingPrecision (← q.factor)) x := by
  obtain ⟨q, qs, rfl⟩ := List.exists_cons_of_ne_nil nonempty
  simp only [totalFactor, List.cons_append, List.foldlM_append, bind_assoc]

theorem totalFactor_concat (nonempty : ps ≠ []) (p : Power) :
    totalFactor (ps ++ [p])
      = totalFactor ps >>= fun x => p.factor >>= x.mul workingPrecision := by
  simp only [totalFactor_append nonempty, List.foldlM_cons, List.foldlM_nil, bind_pure]

theorem totalDimensions_concat (ps : List Power) (p : Power) :
    totalDimensions (ps ++ [p]) = (totalDimensions ps).add p.dimensions := by
  simp [totalDimensions]

theorem totalExponent_concat (s : Text) (ps : List Power) (p : Power) :
    totalExponent s (ps ++ [p]) = totalExponent s ps + p.exponentOf s := by
  simp [totalExponent]

theorem totalSymbols_concat (ps : List Power) (p : Power) :
    totalSymbols (ps ++ [p]) = mergeSymbols (totalSymbols ps) p.symbols 1 := by
  simp [totalSymbols]

theorem unitOf_concat (ps : List Power) (p : Power) (x : Scalar) :
    unitOf (ps ++ [p]) x = ⟨(totalDimensions ps).add p.dimensions, x,
      mergeSymbols (totalSymbols ps) p.symbols 1⟩ := by
  rw [unitOf, totalDimensions_concat, totalSymbols_concat]

theorem Power.IsProper.exists_symbol (h : p.IsProper) :
    ∃ s, p.unit.symbols = [(s, 1)] ∧ p.symbols = [(s, p.exponent)] := by
  obtain ⟨s, symbol⟩ := h.symbol
  refine ⟨s, symbol, ?_⟩
  simp [Power.symbols, symbol, h.nonzero]

/-- The symbols of a product are listed once, each with its exponents added up. -/
theorem totalSymbols_spec (h : ∀ p ∈ ps, p.IsProper) :
    IsReduced (totalSymbols ps) ∧ ∀ s, exponentOf s (totalSymbols ps) = totalExponent s ps := by
  induction ps using List.reverseRecOn with
  | nil => exact ⟨isReduced_nil, fun s => rfl⟩
  | append_singleton ps p ih =>
    obtain ⟨reduced, exponents⟩ := ih fun q hq => h q (List.mem_append_left _ hq)
    have proper := h p (by simp)
    obtain ⟨t, symbol, raised⟩ := proper.exists_symbol
    have single := isReduced_singleton t proper.nonzero
    rw [totalSymbols_concat, raised]
    refine ⟨reduced.merge _ 1, fun s => ?_⟩
    rw [exponentOf_mergeSymbols reduced single, exponents, totalExponent_concat,
      exponentOf_singleton, Power.exponentOf, symbol, exponentOf_singleton]
    split <;> simp

/-- A product with one more factor is calculated just if its factor is. -/
theorem extend_productOf (h : p.IsProper) (calculated : totalFactor ps = .ok x) :
    ((p.unit.pow p.exponent).mapError (ParseFault.interrupted ∘ .signal) >>=
      extend (productOf ps x))
      = ((totalFactor (ps ++ [p])).map (unitOf (ps ++ [p]))).mapError
          (ParseFault.interrupted ∘ .signal) := by
  have raised : p.unit.pow p.exponent = p.factor.map (⟨p.dimensions, ·, p.symbols⟩) := rfl
  rw [raised]
  by_cases empty : ps = []
  · subst empty
    obtain ⟨t, -, single⟩ := h.exists_symbol
    have alone : totalSymbols [p] = p.symbols := by
      rw [← List.nil_append [p], totalSymbols_concat, single]
      exact mergeSymbols_singleton isReduced_nil List.not_mem_nil h.nonzero
    rw [List.nil_append, totalFactor_singleton]
    cases p.factor with
    | error signal => rfl
    | ok y =>
      refine congrArg Except.ok ?_
      rw [unitOf, alone]
      simp [totalDimensions]
  · rw [totalFactor_concat empty, calculated, productOf, if_neg empty]
    cases p.factor with
    | error signal => rfl
    | ok y =>
      have multiplied : (unitOf ps x).mul ⟨p.dimensions, y, p.symbols⟩
          = (x.mul workingPrecision y).map (unitOf (ps ++ [p])) := by
        rw [mul, show (unitOf ps x).factor = x from rfl]
        cases x.mul workingPrecision y with
        | error signal => rfl
        | ok z => exact congrArg Except.ok (unitOf_concat ps p z).symm
      exact congrArg (Except.mapError _) multiplied

end PhysicalUnit
end CalcSheet
