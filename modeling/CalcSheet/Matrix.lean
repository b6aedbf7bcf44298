import CalcSheet.Quantity

/-!
# Matrices of quantities

Cells are kept row by row. Operations are given the arithmetic of the cells, so this module is
about shapes.
-/
namespace CalcSheet

/-- A matrix. A row or column count may be zero, and then there are no cells. -/
structure QuantityMatrix where
  rows : Int
  cols : Int
  cells : List Quantity
  size : (cells.length : Int) = rows * cols
  deriving DecidableEq

namespace QuantityMatrix

/-- The cells of each row. -/
def rowCells (m : QuantityMatrix) : List (List Quantity) :=
  (List.range m.rows.toNat).map fun r => (m.cells.drop (r * m.cols.toNat)).take m.cols.toNat

/-- The cells of each column. -/
def colCells (m : QuantityMatrix) : List (List Quantity) :=
  (List.range m.cols.toNat).map fun c => m.rowCells.filterMap (·[c]?)

/-- Rows between brackets, separated by semicolons, and their cells by commas. -/
def text (m : QuantityMatrix) : Text :=
  let row (cells : List Quantity) := PhysicalUnit.joined [',', ' '] (cells.map Quantity.text)
  '[' :: PhysicalUnit.joined [';', ' '] (m.rowCells.map row) ++ [']']

def shape (m : QuantityMatrix) : Shape := some (m.rows, m.cols)

/-- The matrix of the given cells, if there are as many as its shape needs. -/
def ofCells (rows cols : Int) (cells : List Quantity) : Except LayoutFault QuantityMatrix :=
  if h : (cells.length : Int) = rows * cols then .ok ⟨rows, cols, cells, h⟩
  else .error (.cellCount rows cols cells.length)

/-- Apply `f` to each element from left to right; the first failure is the result. -/
def traverse (f : α → Except Fault β) :
    (xs : List α) → Except Fault { ys : List β // ys.length = xs.length }
  | [] => .ok ⟨[], rfl⟩
  | x :: xs => do
      let y ← f x
      let ys ← traverse f xs
      pure ⟨y :: ys.1, congrArg (· + 1) ys.2⟩

/-- Apply `f` to every cell. -/
def mapCells (f : Quantity → Except Fault Quantity) (m : QuantityMatrix) :
    Except Fault QuantityMatrix := do
  let cells ← traverse f m.cells
  pure ⟨m.rows, m.cols, cells.1, by rw [cells.2, m.size]⟩

def SameShape (a b : QuantityMatrix) : Prop := a.rows = b.rows ∧ a.cols = b.cols

instance (a b : QuantityMatrix) : Decidable (a.SameShape b) := inferInstanceAs (Decidable (_ ∧ _))

/-- Combine matrices of one shape cell by cell. -/
def elementwise (f : Quantity → Quantity → Except Fault Quantity) (a b : QuantityMatrix) :
    Except Fault QuantityMatrix :=
  if h : a.SameShape b then do
    let cells ← traverse (fun (x, y) => f x y) (a.cells.zip b.cells)
    pure ⟨a.rows, a.cols, cells.1, by
      have : (b.cells.length : Int) = a.rows * a.cols := by rw [b.size, h.1, h.2]
      have := a.size
      rw [cells.2, List.length_zip]
      omega⟩
  else .error (.unequalShapes a.rows a.cols b.rows b.cols)

/-- `f x cell` for every cell. -/
def broadcastLeft (f : Quantity → Quantity → Except Fault Quantity) (x : Quantity)
    (m : QuantityMatrix) : Except Fault QuantityMatrix :=
  m.mapCells (f x)

/-- `f cell y` for every cell. -/
def broadcastRight (f : Quantity → Quantity → Except Fault Quantity) (m : QuantityMatrix)
    (y : Quantity) : Except Fault QuantityMatrix :=
  m.mapCells (f · y)

/-- Add the products of the paired cells to `total`, from left to right. -/
def dotFrom (mul add : Quantity → Quantity → Except Fault Quantity) (total : Option Quantity) :
    List (Quantity × Quantity) → Except Fault (Option Quantity)
  | [] => .ok total
  | (x, y) :: rest => do
      let product ← mul x y
      let total ←
        match total with
        | none => pure product
        | some t => add t product
      dotFrom mul add (some total) rest

/-- The matrix product. Over zero columns no cell has a value. -/
def product (mul add : Quantity → Quantity → Except Fault Quantity) (a b : QuantityMatrix) :
    Except Fault QuantityMatrix :=
  if a.cols ≠ b.rows then .error (.innerSizes a.rows a.cols b.rows b.cols)
  else do
    let pairs := a.rowCells.flatMap fun row => b.colCells.map fun col => row.zip col
    let cells ← traverse (dotFrom mul add none) pairs
    if (cells.1.length : Int) ≠ a.rows * b.cols then
      .error (.layout (.cellCount a.rows b.cols cells.1.length))
    else if cells.1.any (·.isNone) then .error (.layout .missingCell)
    else (ofCells a.rows b.cols (cells.1.filterMap id)).mapError .layout

/-- Square and multiply, from the last bit of `n` up: `result` times the `n`-th power of `base`,
for `n < 2 ^ bits`. -/
def powFrom (mul add : Quantity → Quantity → Except Fault Quantity) :
    Nat → Nat → QuantityMatrix → Option QuantityMatrix → Except Fault QuantityMatrix
  | 0, _, base, result => .ok (result.getD base)
  | bits + 1, n, base, result => do
      let result ←
        if n % 2 = 0 then pure result
        else match result with
          | none => pure (some base)
          | some r => some <$> product mul add r base
      if n / 2 = 0 then pure (result.getD base)
      else do
        let square ← product mul add base base
        powFrom mul add bits (n / 2) square result

/-- A positive integer power of a square matrix. -/
def power (mul add : Quantity → Quantity → Except Fault Quantity) (m : QuantityMatrix)
    (exponent : Scalar) : Except Fault QuantityMatrix :=
  if m.rows ≠ m.cols then .error (.notSquare m.rows m.cols)
  else match exponent with
    | .finite x =>
        match if x.negative then none else x.toInt? with
        | none => .error (.matrixExponent exponent)
        | some n =>
            if n < 1 then .error (.matrixExponent exponent)
            else powFrom mul add (n.toNat.log2 + 1) n.toNat m none
    | .infinite false => .error .infiniteCount
    | x =>
        if x.IsSignaling then .error (.signal .invalidOperation)
        else .error (.matrixExponent exponent)

end QuantityMatrix
end CalcSheet
