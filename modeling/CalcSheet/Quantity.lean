import CalcSheet.Unit.Expression

/-!
# Quantities

A quantity is a number with an optional unit. Sums take the unit of the left operand; products and
quotients combine units, and where all dimensions cancel a plain number in base units is left.
-/
namespace CalcSheet

/-- The operators between two operands. -/
inductive BinaryOp where
  | add
  | sub
  | mul
  | div
  | pow
  deriving DecidableEq, Repr

namespace BinaryOp

def symbol : BinaryOp → Char
  | add => '+'
  | sub => '-'
  | mul => '*'
  | div => '/'
  | pow => '^'

end BinaryOp

structure Quantity where
  value : Scalar
  unit : Option PhysicalUnit
  deriving DecidableEq, Repr

namespace Quantity

def ofScalar (x : Scalar) : Quantity := ⟨x, none⟩

def ofDecimal (x : Decimal) : Quantity := ofScalar (.finite x)

def zero : Quantity := ofDecimal .zero

/-- The numeral, then a space and the unit if there is one. -/
def text (q : Quantity) : Text :=
  match q.unit with
  | none => q.value.text
  | some u => q.value.text ++ ' ' :: u.text

instance : ToString Quantity := ⟨fun q => String.ofList q.text⟩

/-- Whether the unit, if there is one, can be written. -/
def IsWritable (q : Quantity) : Prop := ∀ u ∈ q.unit.toList, u.IsWritable

instance (q : Quantity) : Decidable q.IsWritable := inferInstanceAs (Decidable (∀ _ ∈ _, _))

def dimensions (q : Quantity) : Dimensions := PhysicalUnit.dimensionsOf q.unit

end Quantity

/-- How many rows and columns an operand has; nothing for a single number. -/
abbrev Shape := Option (Int × Int)

/-- Cells that do not make up a matrix. -/
inductive LayoutFault where
  | cellCount (rows cols : Int) (count : Nat)
  | missingCell
  deriving DecidableEq, Repr

/-- What ends more than a calculation: cells that do not make up a matrix, an infinite number where
an integer is counted, and a unit that cannot be written where it is to be written. -/
inductive Breakdown where
  | layout (cause : LayoutFault)
  | infiniteCount
  | unwritable
  deriving DecidableEq, Repr

/-- Why a calculation has no result. -/
inductive Fault where
  | signal (s : Decimal.Signal)
  | sum (left right : Quantity)
  | conversion (source target : Option PhysicalUnit)
  | quotient (left right : Quantity)
  | zeroToNegative
  | exponentUnit (exponent : Quantity)
  | fractionalPower (base exponent : Quantity)
  | secondUnit (q : Quantity)
  | scaleAttached
  | scaleTarget
  | cellCount (expected : Int) (count : Nat)
  | nestedMatrix
  | unequalShapes (rows cols rows' cols' : Int)
  | innerSizes (rows cols rows' cols' : Int)
  | notSquare (rows cols : Int)
  | matrixExponent (exponent : Scalar)
  | operands (op : BinaryOp) (left right : Shape)
  | emptyStack
  | missingCells (count : Nat)
  | unknownVariable (name : Text)
  | noResult (line : Int)
  | assignment
  | layout (cause : LayoutFault)
  | infiniteCount
  deriving DecidableEq, Repr

namespace Fault

/-- The units that a fault is reported with. -/
def units : Fault → List PhysicalUnit
  | sum x y | quotient x y | fractionalPower x y => x.unit.toList ++ y.unit.toList
  | conversion source target => source.toList ++ target.toList
  | exponentUnit q | secondUnit q => q.unit.toList
  | _ => []

/-- The breakdown that a fault is, or that comes from reporting it. -/
def breakdown? : Fault → Option Breakdown
  | layout cause => some (.layout cause)
  | infiniteCount => some .infiniteCount
  | fault => if ∀ u ∈ fault.units, u.IsWritable then none else some .unwritable

end Fault

namespace Quantity

/-- Arithmetic on values, at the working precision. -/
def lift (r : Except Decimal.Signal α) : Except Fault α := r.mapError .signal

def ofConversion (r : Except PhysicalUnit.ConversionFault α) : Except Fault α :=
  r.mapError fun
    | .incompatible source target => .conversion source target
    | .signal s => .signal s

/-- A value in a unit; where the dimensions have cancelled the factor goes into the value. -/
def collapse (value : Scalar) (u : PhysicalUnit) : Except Fault Quantity :=
  if u.IsDimensionless then do
    let scaled ← lift (value.mul workingPrecision u.factor)
    pure (ofScalar scaled)
  else pure ⟨value, some u⟩

/-- The sum in the unit of the left operand. -/
def add (x y : Quantity) : Except Fault Quantity :=
  if x.dimensions ≠ y.dimensions then .error (.sum x y)
  else if x.unit.isNone ∧ y.unit.isNone then do
    let sum ← lift (x.value.add workingPrecision y.value)
    pure (ofScalar sum)
  else do
    let factor ← ofConversion (PhysicalUnit.conversionFactor y.unit x.unit)
    let scaled ← lift (y.value.mul workingPrecision factor)
    let sum ← lift (x.value.add workingPrecision scaled)
    pure ⟨sum, x.unit⟩

def neg (x : Quantity) : Except Fault Quantity := do
  let value ← lift (x.value.neg workingPrecision)
  pure ⟨value, x.unit⟩

def sub (x y : Quantity) : Except Fault Quantity := do
  let opposite ← y.neg
  x.add opposite

def mul (x y : Quantity) : Except Fault Quantity := do
  let value ← lift (x.value.mul workingPrecision y.value)
  match x.unit, y.unit with
  | some u, some w => do
      let product ← lift (u.mul w)
      collapse value product
  | some u, none => pure ⟨value, some u⟩
  | none, unit => pure ⟨value, unit⟩

def div (x y : Quantity) : Except Fault Quantity := do
  if ← lift y.value.isZero then .error (.quotient x y)
  else
    let value ← lift (x.value.div workingPrecision y.value)
    match x.unit, y.unit with
    | unit, none => pure ⟨value, unit⟩
    | none, some w => do
        let reciprocal ← lift (w.pow (-1))
        collapse value reciprocal
    | some u, some w => do
        let quotient ← lift (u.div w)
        collapse value quotient

/-- The integer that an exponent is, if it is one. An infinity cannot be counted. -/
def wholeExponent? : Scalar → Except Fault (Option Int)
  | .finite x => .ok x.toInt?
  | .infinite _ => .error .infiniteCount
  | x => if x.IsSignaling then .error (.signal .invalidOperation) else .ok none

/-- The power of a quantity with a unit. Exponents are integers; the zeroth power is a plain one. -/
def powUnit (x : Quantity) (u : PhysicalUnit) (y : Quantity) : Except Fault Quantity := do
  match ← wholeExponent? y.value with
  | none => .error (.fractionalPower x y)
  | some n =>
      if n = 0 then pure (ofDecimal .one)
      else
        let value ← lift (x.value.pow workingPrecision (.ofInt n))
        let unit ← lift (u.pow n)
        pure ⟨value, some unit⟩

/-- `x ^ y`. The exponent has no unit. -/
def pow (x y : Quantity) : Except Fault Quantity :=
  if y.unit.isSome then .error (.exponentUnit y)
  else do
    let invertsZero ← lift do if ← x.value.isZero then y.value.isNegative else pure false
    if invertsZero then .error .zeroToNegative
    else match x.unit with
      | none => do
          let value ← lift (x.value.pow workingPrecision y.value)
          pure (ofScalar value)
      | some u => powUnit x u y

/-- Give a plain number a unit; a dimensionless unit such as percent scales it instead. -/
def attach (x : Quantity) (unit : Option PhysicalUnit) : Except Fault Quantity :=
  match unit with
  | none => .error .scaleAttached
  | some u =>
      if x.unit.isSome then .error (.secondUnit x)
      else if u.IsDimensionless then do
        let scaled ← lift (x.value.mul workingPrecision u.factor)
        pure (ofScalar scaled)
      else pure ⟨x.value, some u⟩

/-- Rescale into another unit of the same dimensions. -/
def convert (x : Quantity) (unit : Option PhysicalUnit) : Except Fault Quantity :=
  match unit with
  | none => .error .scaleTarget
  | some u => do
      let factor ← ofConversion (PhysicalUnit.conversionFactor x.unit (some u))
      let value ← lift (x.value.mul workingPrecision factor)
      pure ⟨value, some u⟩

/-- The operator on two quantities. -/
def binary : BinaryOp → Quantity → Quantity → Except Fault Quantity
  | .add => add
  | .sub => sub
  | .mul => mul
  | .div => div
  | .pow => pow

end Quantity
end CalcSheet
