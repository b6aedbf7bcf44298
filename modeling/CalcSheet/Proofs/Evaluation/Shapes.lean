import CalcSheet.Evaluation
import CalcSheet.Proofs.Success

/-!
# Shapes of values

Matrices have at least one row and one column, and no operation makes an empty one or one with a
cell too few. What the cells are like is left to their arithmetic: a property of quantities that
this arithmetic keeps is kept by every operation on matrices.
-/
namespace CalcSheet

/-- A fault that ends a calculation and nothing more: not one of matrices that have a cell too few
or too many, of an infinite number where an integer is counted, or of a step that cannot occur. -/
def Fault.IsContained : Fault → Prop
  | .layout _ | .infiniteCount | .assignment => False
  | _ => True

/-- What is known of quantities, of those that are divided by or raised to a power, of units and of
faults, and is kept by the arithmetic of quantities. -/
structure CellOperations (p invertible : Quantity → Prop) (unit : Option PhysicalUnit → Prop)
    (f : Fault → Prop) : Prop where
  contained : ∀ fault : Fault, fault.IsContained → f fault
  count : ∀ x negative, p x → x.value = .infinite negative → f .infiniteCount
  neg : ∀ x, p x → Yields p f x.neg
  add : ∀ x y, p x → p y → Yields p f (x.add y)
  mul : ∀ x y, p x → p y → Yields p f (x.mul y)
  div : ∀ x y, p x → p y → invertible y → Yields p f (x.div y)
  pow : ∀ x y, p x → p y → invertible x → Yields p f (x.pow y)
  attach : ∀ x u, p x → unit u → Yields p f (x.attach u)
  convert : ∀ x u, p x → unit u → Yields p f (x.convert u)

/-- What holds of all numbers that can be written, and is kept by the arithmetic of quantities. -/
structure CellArithmetic (p invertible : Quantity → Prop) (unit : Option PhysicalUnit → Prop)
    (f : Fault → Prop) : Prop extends CellOperations p invertible unit f where
  decimal : ∀ d, p (.ofDecimal d)

variable {p invertible : Quantity → Prop} {unit : Option PhysicalUnit → Prop} {f : Fault → Prop}

namespace QuantityMatrix

/-- A matrix with cells of one kind, and with at least one. -/
structure Holds (p : Quantity → Prop) (m : QuantityMatrix) : Prop where
  rows : 0 < m.rows
  cols : 0 < m.cols
  cells : ∀ q ∈ m.cells, p q

variable {a b m : QuantityMatrix}

theorem Holds.size_eq (h : m.Holds p) : m.cells.length = m.rows.toNat * m.cols.toNat := by
  rw [← Int.toNat_mul (Int.le_of_lt h.rows) (Int.le_of_lt h.cols), ← m.size, Int.toNat_natCast]

/-! ### Rows and columns -/

theorem mem_cells_of_mem_rowCells {row : List Quantity} (mem : row ∈ m.rowCells) {q : Quantity}
    (inside : q ∈ row) : q ∈ m.cells := by
  obtain ⟨r, -, rfl⟩ := List.mem_map.1 mem
  exact List.mem_of_mem_drop (List.mem_of_mem_take inside)

theorem length_rowCells (m : QuantityMatrix) : m.rowCells.length = m.rows.toNat := by
  simp [rowCells]

/-- Every row has a cell for each column. -/
theorem Holds.length_row (h : m.Holds p) {row : List Quantity} (mem : row ∈ m.rowCells) :
    row.length = m.cols.toNat := by
  obtain ⟨r, inside, rfl⟩ := List.mem_map.1 mem
  have room : (r + 1) * m.cols.toNat ≤ m.rows.toNat * m.cols.toNat :=
    Nat.mul_le_mul_right _ (List.mem_range.1 inside)
  rw [Nat.succ_mul] at room
  rw [List.length_take, List.length_drop, h.size_eq]
  omega

theorem length_colCells (m : QuantityMatrix) : m.colCells.length = m.cols.toNat := by
  simp [colCells]

theorem mem_cells_of_mem_colCells {col : List Quantity} (mem : col ∈ m.colCells) {q : Quantity}
    (inside : q ∈ col) : q ∈ m.cells := by
  obtain ⟨c, -, rfl⟩ := List.mem_map.1 mem
  obtain ⟨row, row_mem, found⟩ := List.mem_filterMap.1 inside
  exact mem_cells_of_mem_rowCells row_mem (List.mem_of_getElem? found)

/-- Every column has a cell in each row. -/
theorem Holds.length_col (h : m.Holds p) {col : List Quantity} (mem : col ∈ m.colCells) :
    col.length = m.rows.toNat := by
  obtain ⟨c, inside, rfl⟩ := List.mem_map.1 mem
  rw [← length_rowCells, List.filterMap_length_eq_length]
  intro row row_mem
  have bound : c < row.length := h.length_row row_mem ▸ List.mem_range.1 inside
  rw [List.getElem?_eq_getElem bound]
  rfl

/-! ### Operations -/

theorem traverse_yields {α β : Type} {g : α → Except Fault β} {q : β → Prop} {xs : List α}
    (each : ∀ x ∈ xs, Yields q f (g x)) :
    Yields (fun ys => ∀ y ∈ ys.1, q y) f (traverse g xs) := by
  induction xs with
  | nil => exact List.forall_mem_nil _
  | cons x xs ih =>
    obtain ⟨here, later⟩ := List.forall_mem_cons.1 each
    refine here.bind fun y hy => (ih later).bind fun ys hys => ?_
    exact List.forall_mem_cons.2 ⟨hy, hys⟩

theorem mapCells_yields {g : Quantity → Except Fault Quantity} (h : m.Holds p)
    (each : ∀ q, p q → Yields p f (g q)) : Yields (Holds p) f (m.mapCells g) :=
  (traverse_yields fun q mem => each q (h.cells q mem)).bind fun _ cells => ⟨h.rows, h.cols, cells⟩

theorem elementwise_yields {g : Quantity → Quantity → Except Fault Quantity}
    (contained : ∀ fault : Fault, fault.IsContained → f fault) (ha : a.Holds p) (hb : b.Holds p)
    (each : ∀ x y, p x → p y → Yields p f (g x y)) : Yields (Holds p) f (elementwise g a b) := by
  unfold elementwise
  split
  · have pairs : ∀ xy ∈ a.cells.zip b.cells, Yields p f (g xy.1 xy.2) := by
      intro xy mem
      obtain ⟨x_mem, y_mem⟩ := List.of_mem_zip mem
      exact each _ _ (ha.cells _ x_mem) (hb.cells _ y_mem)
    exact (traverse_yields pairs).bind fun _ cells => ⟨ha.rows, ha.cols, cells⟩
  · exact contained _ trivial

theorem dotFrom_yields {mul add : Quantity → Quantity → Except Fault Quantity}
    (mul_yields : ∀ x y, p x → p y → Yields p f (mul x y))
    (add_yields : ∀ x y, p x → p y → Yields p f (add x y)) {total : Option Quantity}
    {pairs : List (Quantity × Quantity)} (start : ∀ t ∈ total, p t)
    (each : ∀ xy ∈ pairs, p xy.1 ∧ p xy.2) (filled : total ≠ none ∨ pairs ≠ []) :
    Yields (fun cell? => ∃ cell, cell? = some cell ∧ p cell) f (dotFrom mul add total pairs) := by
  induction pairs generalizing total with
  | nil =>
    obtain ⟨t, rfl⟩ := Option.ne_none_iff_exists'.1 (filled.resolve_right (by simp))
    exact ⟨t, rfl, start t rfl⟩
  | cons xy pairs ih =>
    obtain ⟨⟨hx, hy⟩, later⟩ := List.forall_mem_cons.1 each
    refine (mul_yields _ _ hx hy).bind fun product hproduct => ?_
    cases total with
    | none => exact ih (by simpa using hproduct) later (.inl (by simp))
    | some t =>
      refine (add_yields t product (start t rfl) hproduct).bind fun sum hsum => ?_
      exact ih (by simpa using hsum) later (.inl (by simp))

/-- A product has a cell for each row of the first and each column of the second matrix. -/
theorem Holds.length_pairs (ha : a.Holds p) (hb : b.Holds p) :
    ((a.rowCells.flatMap fun row => b.colCells.map fun col => row.zip col).length : Int)
      = a.rows * b.cols := by
  simp only [List.length_flatMap, List.length_map, length_colCells, List.map_const',
    List.sum_replicate_nat, length_rowCells, Int.natCast_mul]
  rw [Int.toNat_of_nonneg (Int.le_of_lt ha.rows), Int.toNat_of_nonneg (Int.le_of_lt hb.cols)]

/-- A row and a column of matrices that fit have cells to multiply. -/
theorem Holds.zip_ne_nil (ha : a.Holds p) (hb : b.Holds p) (fit : a.cols = b.rows)
    {row col : List Quantity} (row_mem : row ∈ a.rowCells) (col_mem : col ∈ b.colCells) :
    row.zip col ≠ [] := by
  have length : (row.zip col).length = a.cols.toNat := by
    rw [List.length_zip, ha.length_row row_mem, hb.length_col col_mem, fit, Nat.min_self]
  have cols := ha.cols
  exact List.ne_nil_of_length_pos (by omega)

/-- A product is made of the sums for its cells, where each of them has one. -/
theorem product_of_traverse {mul add : Quantity → Quantity → Except Fault Quantity}
    (ha : a.Holds p) (hb : b.Holds p) (fit : a.cols = b.rows)
    {cells : { ys : List (Option Quantity) // ys.length
      = (a.rowCells.flatMap fun row => b.colCells.map fun col => row.zip col).length }}
    (done : traverse (dotFrom mul add none)
      (a.rowCells.flatMap fun row => b.colCells.map fun col => row.zip col) = .ok cells)
    (present : ∀ cell? ∈ cells.1, cell?.isSome = true) :
    ∃ size, product mul add a b = .ok ⟨a.rows, b.cols, cells.1.filterMap id, size⟩ := by
  have whole : (cells.1.length : Int) = a.rows * b.cols := by rw [cells.2, ha.length_pairs hb]
  have complete : (cells.1.any (·.isNone)) = false := by
    rw [List.any_eq_false]
    intro cell? mem
    simp [Option.isSome_iff_ne_none.1 (present cell? mem)]
  have size : ((cells.1.filterMap id).length : Int) = a.rows * b.cols := by
    rw [← whole, Int.natCast_inj]
    exact List.filterMap_length_eq_length.2 present
  refine ⟨size, ?_⟩
  rw [product, if_neg (Decidable.not_not.2 fit)]
  simp only [done]
  change (if _ then _ else if _ then _ else _) = _
  rw [if_neg (Decidable.not_not.2 whole), complete, if_neg Bool.false_ne_true, ofCells,
    dif_pos size]
  rfl

theorem product_of_traverse_error {mul add : Quantity → Quantity → Except Fault Quantity}
    (fit : a.cols = b.rows) {fault : Fault} (failed : traverse (dotFrom mul add none)
      (a.rowCells.flatMap fun row => b.colCells.map fun col => row.zip col) = .error fault) :
    product mul add a b = .error fault := by
  rw [product, if_neg (Decidable.not_not.2 fit)]
  simp only [failed]
  rfl

theorem product_yields {mul add : Quantity → Quantity → Except Fault Quantity}
    (contained : ∀ fault : Fault, fault.IsContained → f fault)
    (mul_yields : ∀ x y, p x → p y → Yields p f (mul x y))
    (add_yields : ∀ x y, p x → p y → Yields p f (add x y)) (ha : a.Holds p) (hb : b.Holds p) :
    Yields (Holds p) f (product mul add a b) := by
  by_cases fit : a.cols = b.rows
  · have each : ∀ pairs ∈ a.rowCells.flatMap fun row => b.colCells.map fun col => row.zip col,
        Yields (fun cell? => ∃ cell, cell? = some cell ∧ p cell) f
          (dotFrom mul add none pairs) := by
      intro pairs mem
      obtain ⟨row, row_mem, mem⟩ := List.mem_flatMap.1 mem
      obtain ⟨col, col_mem, rfl⟩ := List.mem_map.1 mem
      refine dotFrom_yields mul_yields add_yields (by simp) (fun xy mem => ?_)
        (.inr (ha.zip_ne_nil hb fit row_mem col_mem))
      obtain ⟨x_mem, y_mem⟩ := List.of_mem_zip mem
      exact ⟨ha.cells _ (mem_cells_of_mem_rowCells row_mem x_mem),
        hb.cells _ (mem_cells_of_mem_colCells col_mem y_mem)⟩
    cases done : traverse (dotFrom mul add none)
        (a.rowCells.flatMap fun row => b.colCells.map fun col => row.zip col) with
    | error fault =>
      rw [product_of_traverse_error fit done]
      exact (traverse_yields each).error done
    | ok cells =>
      have filled := (traverse_yields each).ok done
      have present : ∀ cell? ∈ cells.1, cell?.isSome = true := by
        intro cell? mem
        obtain ⟨cell, rfl, -⟩ := filled cell? mem
        rfl
      obtain ⟨size, made⟩ := product_of_traverse ha hb fit done present
      rw [made]
      refine ⟨ha.rows, hb.cols, fun q mem => ?_⟩
      obtain ⟨cell?, mem, same⟩ := List.mem_filterMap.1 mem
      obtain ⟨cell, rfl, hcell⟩ := filled cell? mem
      obtain rfl := Option.some.inj same
      exact hcell
  · rw [product, if_pos fit]
    exact contained _ trivial

/-- What holds of a matrix and is kept by products holds of its powers. -/
theorem powFrom_yields {mul add : Quantity → Quantity → Except Fault Quantity}
    {P : QuantityMatrix → Prop}
    (times : ∀ a b : QuantityMatrix, P a → P b → Yields P f (product mul add a b))
    {bits n : Nat} {base : QuantityMatrix} {result : Option QuantityMatrix} (hbase : P base)
    (hresult : ∀ r ∈ result, P r) : Yields P f (powFrom mul add bits n base result) := by
  have getD {base : QuantityMatrix} {result : Option QuantityMatrix} (hbase : P base)
      (h : ∀ r ∈ result, P r) : P (result.getD base) := by
    cases result with
    | none => exact hbase
    | some r => exact h r rfl
  induction bits generalizing n base result with
  | zero => exact getD hbase hresult
  | succ bits ih =>
    unfold powFrom
    have rest {result : Option QuantityMatrix} (h : ∀ r ∈ result, P r) :
        Yields P f (if n / 2 = 0 then pure (result.getD base) else
          product mul add base base >>= fun square =>
            powFrom mul add bits (n / 2) square result) := by
      split
      · exact getD hbase h
      · exact (times base base hbase hbase).bind fun square hsquare => ih hsquare h
    dsimp only
    split
    · exact rest hresult
    · cases result with
      | none => exact rest (by simpa using hbase)
      | some r =>
        have product := times r base (hresult r rfl) hbase
        exact (product.map (by simp)).bind fun result h => rest h

theorem power_yields {mul add : Quantity → Quantity → Except Fault Quantity}
    (contained : ∀ fault : Fault, fault.IsContained → f fault)
    (times : ∀ a b : QuantityMatrix, a.Holds p → b.Holds p →
      Yields (Holds p) f (product mul add a b))
    {exponent : Scalar} (count : exponent = .infinite false → f .infiniteCount) (hm : m.Holds p) :
    Yields (Holds p) f (power mul add m exponent) := by
  unfold power
  split
  · exact contained _ trivial
  · split
    · split
      · exact contained _ trivial
      · split
        · exact contained _ trivial
        · exact powFrom_yields times hm (by simp)
    · exact count rfl
    · split
      · exact contained _ trivial
      · exact contained _ trivial

end QuantityMatrix

namespace Value

/-- The quantities that a value consists of. -/
def cells : Value → List Quantity
  | .number q => [q]
  | .matrix m => m.cells

/-- A number, or a matrix with at least one cell, of quantities of one kind. -/
def Holds (p : Quantity → Prop) : Value → Prop
  | .number q => p q
  | .matrix m => m.Holds p

variable {v w : Value}

theorem Holds.cells (h : v.Holds p) : ∀ q ∈ v.cells, p q := by
  cases v with
  | number q =>
    have : p q := h
    simpa [Value.cells] using this
  | matrix m => exact QuantityMatrix.Holds.cells h

theorem map_yields {g : Quantity → Except Fault Quantity} (h : v.Holds p)
    (each : ∀ q, p q → Yields p f (g q)) : Yields (Holds p) f (v.map g) := by
  cases v with
  | number q => exact (each q h).map fun _ hq => hq
  | matrix m => exact (QuantityMatrix.mapCells_yields h each).map fun _ hm => hm

end Value

namespace CellOperations
open QuantityMatrix

variable {v w : Value} (arithmetic : CellOperations p invertible unit f)
include arithmetic

theorem sub (x y : Quantity) (hx : p x) (hy : p y) : Yields p f (x.sub y) :=
  (arithmetic.neg y hy).bind fun opposite h => arithmetic.add x opposite hx h

theorem product (a b : QuantityMatrix) (ha : a.Holds p) (hb : b.Holds p) :
    Yields (QuantityMatrix.Holds p) f (QuantityMatrix.product Quantity.mul Quantity.add a b) :=
  product_yields arithmetic.contained arithmetic.mul arithmetic.add ha hb

theorem quantity (op : BinaryOp) {x y : Quantity} (hx : p x) (hy : p y) (ix : invertible x)
    (iy : invertible y) : Yields p f (Quantity.binary op x y) := by
  cases op with
  | add => exact arithmetic.add x y hx hy
  | sub => exact arithmetic.sub x y hx hy
  | mul => exact arithmetic.mul x y hx hy
  | div => exact arithmetic.div x y hx hy iy
  | pow => exact arithmetic.pow x y hx hy ix

/-- An operator on two values of one kind makes another one, if they may be divided by and raised to
powers. -/
theorem binary (op : BinaryOp) (hv : v.Holds p) (hw : w.Holds p)
    (iv : ∀ q ∈ v.cells, invertible q) (iw : ∀ q ∈ w.cells, invertible q) :
    Yields (Value.Holds p) f (Value.binary op v w) := by
  have other : f (.operands op v.shape w.shape) := arithmetic.contained _ trivial
  cases v with
  | number x =>
    cases w with
    | number y =>
      exact (arithmetic.quantity op hv hw (iv x (by simp [Value.cells]))
        (iw y (by simp [Value.cells]))).map fun _ h => h
    | matrix b =>
      cases op with
      | mul => exact (mapCells_yields hw fun y hy => arithmetic.mul x y hv hy).map fun _ h => h
      | _ => exact other
  | matrix a =>
    cases w with
    | number y =>
      cases op with
      | mul => exact (mapCells_yields hv fun x hx => arithmetic.mul x y hx hw).map fun _ h => h
      | div =>
        have iy := iw y (by simp [Value.cells])
        exact (mapCells_yields hv fun x hx => arithmetic.div x y hx hw iy).map fun _ h => h
      | pow =>
        change Yields _ f (if y.unit.isNone then _ else _)
        split
        · exact (power_yields arithmetic.contained arithmetic.product
            (fun infinite => arithmetic.count y false hw infinite) hv).map fun _ h => h
        · exact other
      | _ => exact other
    | matrix b =>
      cases op with
      | add => exact (elementwise_yields arithmetic.contained hv hw arithmetic.add).map fun _ h => h
      | sub => exact (elementwise_yields arithmetic.contained hv hw arithmetic.sub).map fun _ h => h
      | mul => exact (arithmetic.product a b hv hw).map fun _ h => h
      | _ => exact other

/-- A matrix is made of as many cells as it has places, none of them a matrix itself. -/
theorem ofCells {rows cols : Nat} {cells : List Value} (hrows : 0 < rows) (hcols : 0 < cols)
    (each : ∀ v ∈ cells, v.Holds p) :
    Yields (Value.Holds p) f (Value.ofCells rows cols cells) := by
  unfold Value.ofCells
  split
  · exact arithmetic.contained _ trivial
  · next size =>
    have size := Decidable.not_not.1 size
    have numbers : ∀ v ∈ cells, Yields p f (match v with
        | .number q => .ok q
        | .matrix _ => .error .nestedMatrix) := by
      intro v mem
      cases v with
      | number q => exact each _ mem
      | matrix m => exact arithmetic.contained _ trivial
    refine (traverse_yields numbers).bind fun quantities h => ?_
    have whole : (quantities.1.length : Int) = (rows : Int) * cols := by rw [quantities.2, size]
    rw [QuantityMatrix.ofCells, dif_pos whole]
    exact ⟨Int.natCast_pos.2 hrows, Int.natCast_pos.2 hcols, h⟩

end CellOperations

end CalcSheet
