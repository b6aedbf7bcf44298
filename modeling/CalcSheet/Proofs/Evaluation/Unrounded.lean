import CalcSheet.Display.Result
import CalcSheet.Proofs.Scalar.Exact

/-!
# Quantities without rounding

The operations on quantities, over any arithmetic of scalars. With the one at the working precision
they are those that calculations use; with the one that refuses what is not exact they tell whether
something has been rounded on the way.
-/
namespace CalcSheet
open Decimal (Signal)

namespace PhysicalUnit

/-- The number of base units in a unit; without a unit it is one. -/
def factorOf (unit : Option PhysicalUnit) : Scalar := (unit.map (·.factor)).getD .one

def mulBy (r : Arithmetic) (u w : PhysicalUnit) : Except Signal PhysicalUnit := do
  let factor ← r.mul u.factor w.factor
  pure ⟨u.dimensions.add w.dimensions, factor, mergeSymbols u.symbols w.symbols 1⟩

def divBy (r : Arithmetic) (u w : PhysicalUnit) : Except Signal PhysicalUnit := do
  let factor ← r.div u.factor w.factor
  pure ⟨u.dimensions.sub w.dimensions, factor, mergeSymbols u.symbols w.symbols (-1)⟩

def powBy (r : Arithmetic) (u : PhysicalUnit) (n : Int) : Except Signal PhysicalUnit := do
  let factor ← r.pow u.factor (.ofInt n)
  pure ⟨u.dimensions.scale n, factor, (u.symbols.map fun (s, e) => (s, e * n)).filter (·.2 ≠ 0)⟩

def conversionFactorBy (r : Arithmetic) (source target : Option PhysicalUnit) :
    Except ConversionFault Scalar :=
  if dimensionsOf source ≠ dimensionsOf target then .error (.incompatible source target)
  else
    let factor : Except Signal Scalar := do
      if ← (factorOf source).equal (factorOf target) then pure .one
      else r.div (factorOf source) (factorOf target)
    factor.mapError .signal

end PhysicalUnit

namespace Quantity
open PhysicalUnit

def collapseBy (r : Arithmetic) (value : Scalar) (u : PhysicalUnit) : Except Fault Quantity :=
  if u.IsDimensionless then do
    let scaled ← lift (r.mul value u.factor)
    pure (ofScalar scaled)
  else pure ⟨value, some u⟩

def addBy (r : Arithmetic) (x y : Quantity) : Except Fault Quantity :=
  if x.dimensions ≠ y.dimensions then .error (.sum x y)
  else if x.unit.isNone ∧ y.unit.isNone then do
    let sum ← lift (r.add x.value y.value)
    pure (ofScalar sum)
  else do
    let factor ← ofConversion (conversionFactorBy r y.unit x.unit)
    let scaled ← lift (r.mul y.value factor)
    let sum ← lift (r.add x.value scaled)
    pure ⟨sum, x.unit⟩

def negBy (r : Arithmetic) (x : Quantity) : Except Fault Quantity := do
  let value ← lift (r.neg x.value)
  pure ⟨value, x.unit⟩

def subBy (r : Arithmetic) (x y : Quantity) : Except Fault Quantity := do
  let opposite ← y.negBy r
  x.addBy r opposite

def mulBy (r : Arithmetic) (x y : Quantity) : Except Fault Quantity := do
  let value ← lift (r.mul x.value y.value)
  match x.unit, y.unit with
  | some u, some w => do
      let product ← lift (u.mulBy r w)
      collapseBy r value product
  | some u, none => pure ⟨value, some u⟩
  | none, unit => pure ⟨value, unit⟩

def divBy (r : Arithmetic) (x y : Quantity) : Except Fault Quantity := do
  if ← lift y.value.isZero then .error (.quotient x y)
  else
    let value ← lift (r.div x.value y.value)
    match x.unit, y.unit with
    | unit, none => pure ⟨value, unit⟩
    | none, some w => do
        let reciprocal ← lift (w.powBy r (-1))
        collapseBy r value reciprocal
    | some u, some w => do
        let quotient ← lift (u.divBy r w)
        collapseBy r value quotient

def powUnitBy (r : Arithmetic) (x : Quantity) (u : PhysicalUnit) (y : Quantity) :
    Except Fault Quantity := do
  match ← wholeExponent? y.value with
  | none => .error (.fractionalPower x y)
  | some n =>
      if n = 0 then pure (ofDecimal .one)
      else
        let value ← lift (r.pow x.value (.ofInt n))
        let unit ← lift (u.powBy r n)
        pure ⟨value, some unit⟩

def powBy (r : Arithmetic) (x y : Quantity) : Except Fault Quantity :=
  if y.unit.isSome then .error (.exponentUnit y)
  else do
    let invertsZero ← lift do if ← x.value.isZero then y.value.isNegative else pure false
    if invertsZero then .error .zeroToNegative
    else match x.unit with
      | none => do
          let value ← lift (r.pow x.value y.value)
          pure (ofScalar value)
      | some u => powUnitBy r x u y

def attachBy (r : Arithmetic) (x : Quantity) (unit : Option PhysicalUnit) :
    Except Fault Quantity :=
  match unit with
  | none => .error .scaleAttached
  | some u =>
      if x.unit.isSome then .error (.secondUnit x)
      else if u.IsDimensionless then do
        let scaled ← lift (r.mul x.value u.factor)
        pure (ofScalar scaled)
      else pure ⟨x.value, some u⟩

def convertBy (r : Arithmetic) (x : Quantity) (unit : Option PhysicalUnit) :
    Except Fault Quantity :=
  match unit with
  | none => .error .scaleTarget
  | some u => do
      let factor ← ofConversion (conversionFactorBy r x.unit (some u))
      let value ← lift (r.mul x.value factor)
      pure ⟨value, some u⟩

def inDerivedUnitBy (r : Arithmetic) (q : Quantity) : Except Signal Quantity :=
  match q.unit with
  | none => .ok q
  | some u =>
      if u.symbols.length ≤ 1 then .ok q
      else match u.derived? with
        | none => .ok q
        | some d =>
            match conversionFactorBy r (some u) (some d) with
            | .error (.signal s) => .error s
            | .error _ => .ok q
            | .ok factor => do
                let value ← r.mul q.value factor
                pure ⟨value, some d⟩

section working
variable (x y : Quantity) (unit : Option PhysicalUnit)

theorem addBy_working : x.addBy .working y = x.add y := rfl

theorem subBy_working : x.subBy .working y = x.sub y := rfl

theorem mulBy_working : x.mulBy .working y = x.mul y := rfl

theorem divBy_working : x.divBy .working y = x.div y := rfl

theorem powBy_working : x.powBy .working y = x.pow y := rfl

theorem attachBy_working : x.attachBy .working unit = x.attach unit := rfl

theorem convertBy_working : x.convertBy .working unit = x.convert unit := rfl

theorem inDerivedUnitBy_working : x.inDerivedUnitBy .working = Displayed.inDerivedUnit x := rfl

end working

theorem exists_isUnrounded {ε α : Type} (calculation : Arithmetic → Except ε α) {r : Except ε α}
    (same : calculation .working = r)
    (both : ∃ z, calculation .exact = .ok z ∧ ∃ w, r = .ok w ∧ z = w) :
    ∃ z, r = .ok z ∧ IsUnrounded calculation := by
  obtain ⟨z, exact, _, working, rfl⟩ := both
  exact ⟨z, working, exact.trans (same.trans working).symm⟩

end Quantity
end CalcSheet
