import CalcSheet.Matrix

/-!
# Values of lines

A line evaluates to a quantity or to a matrix of quantities. `Value.binary` says which pairs of
operands an operator accepts.
-/
namespace CalcSheet

inductive Value where
  | number (q : Quantity)
  | matrix (m : QuantityMatrix)
  deriving DecidableEq

namespace Value

def zero : Value := .number .zero

def text : Value → Text
  | .number q => q.text
  | .matrix m => m.text

/-- Whether the units of all numbers can be written. -/
def IsWritable : Value → Prop
  | .number q => q.IsWritable
  | .matrix m => ∀ q ∈ m.cells, q.IsWritable

instance : DecidablePred IsWritable
  | .number q => inferInstanceAs (Decidable q.IsWritable)
  | .matrix m => inferInstanceAs (Decidable (∀ q ∈ m.cells, q.IsWritable))

/-- The text of a value that can be written. -/
def written (v : Value) : Except Breakdown Text :=
  if v.IsWritable then .ok v.text else .error .unwritable

def shape : Value → Shape
  | .number _ => none
  | .matrix m => m.shape

/-- Apply `f` to a number, or to every cell of a matrix. -/
def map (f : Quantity → Except Fault Quantity) : Value → Except Fault Value
  | .number q => .number <$> f q
  | .matrix m => .matrix <$> m.mapCells f

def neg : Value → Except Fault Value := map Quantity.neg

/-- An operator on two values. -/
def binary (op : BinaryOp) (left right : Value) : Except Fault Value :=
  match left, right with
  | .number x, .number y => .number <$> Quantity.binary op x y
  | .matrix a, .matrix b =>
      match op with
      | .add => .matrix <$> QuantityMatrix.elementwise Quantity.add a b
      | .sub => .matrix <$> QuantityMatrix.elementwise Quantity.sub a b
      | .mul => .matrix <$> QuantityMatrix.product Quantity.mul Quantity.add a b
      | _ => .error (.operands op left.shape right.shape)
  | .matrix a, .number y =>
      match op with
      | .mul => .matrix <$> QuantityMatrix.broadcastRight Quantity.mul a y
      | .div => .matrix <$> QuantityMatrix.broadcastRight Quantity.div a y
      | .pow =>
          if y.unit.isNone then
            .matrix <$> QuantityMatrix.power Quantity.mul Quantity.add a y.value
          else .error (.operands op left.shape right.shape)
      | _ => .error (.operands op left.shape right.shape)
  | .number x, .matrix b =>
      match op with
      | .mul => .matrix <$> QuantityMatrix.broadcastLeft Quantity.mul x b
      | _ => .error (.operands op left.shape right.shape)

/-- A matrix written out cell by cell. Cells are numbers: matrices do not nest. -/
def ofCells (rows cols : Int) (cells : List Value) : Except Fault Value := do
  if (cells.length : Int) ≠ rows * cols then .error (.cellCount (rows * cols) cells.length)
  else
    let quantities ← QuantityMatrix.traverse (fun
      | .number q => .ok q
      | .matrix _ => .error .nestedMatrix) cells
    .matrix <$> (QuantityMatrix.ofCells rows cols quantities.1).mapError .layout

/-- The sum of two line results, where it exists. -/
def sum? (left right : Value) : Except Breakdown (Option Value) :=
  match binary .add left right with
  | .ok v => .ok (some v)
  | .error fault =>
      match fault.breakdown? with
      | some cause => .error cause
      | none => .ok none

end Value
end CalcSheet
