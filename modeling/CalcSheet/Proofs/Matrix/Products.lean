import CalcSheet.Proofs.Decimal.Nearest
import CalcSheet.Proofs.Matrix.Cells
import CalcSheet.Proofs.Scalar.Exact

/-!
# Products of matrices

Each cell of a product is a sum of products of cells, added up from left to right. Square and
multiply makes nothing but products of the matrix and of such products.
-/
namespace CalcSheet.QuantityMatrix

variable {mul add : Quantity → Quantity → Except Fault Quantity} {a b c m : QuantityMatrix}

/-- The sum of the products of `x` and `y` up to the `n`-th, added up one after the other. -/
def partialSum (mul add : Quantity → Quantity → Except Fault Quantity) (x y : Nat → Quantity) :
    Nat → Except Fault Quantity
  | 0 => mul (x 0) (y 0)
  | n + 1 => do
      let total ← partialSum mul add x y n
      let product ← mul (x (n + 1)) (y (n + 1))
      add total product

/-- The sum for the cell of a product, along a row of the first and a column of the second matrix.
-/
def dot (mul add : Quantity → Quantity → Except Fault Quantity) (a b : QuantityMatrix)
    (i j : Nat) : Except Fault Quantity :=
  partialSum mul add (a.cell i) (b.cell · j) (a.cols.toNat - 1)

/-- One of the calculations for the cells of a product has failed: a product of two cells, or the
sum of such products with the next one. -/
inductive ProductFails (mul add : Quantity → Quantity → Except Fault Quantity)
    (a b : QuantityMatrix) (fault : Fault) : Prop where
  | mul {i j k : Nat} (row : i < a.rows.toNat) (col : j < b.cols.toNat) (inner : k < a.cols.toNat)
      (failed : mul (a.cell i k) (b.cell k j) = .error fault)
  | add {i j k : Nat} {total product : Quantity} (row : i < a.rows.toNat) (col : j < b.cols.toNat)
      (inner : k + 1 < a.cols.toNat)
      (sum : partialSum mul add (a.cell i) (b.cell · j) k = .ok total)
      (next : mul (a.cell i (k + 1)) (b.cell (k + 1) j) = .ok product)
      (failed : add total product = .error fault)

theorem productFails_of_partialSum {i j k : Nat} {fault : Fault} (row : i < a.rows.toNat)
    (col : j < b.cols.toNat) (inner : k < a.cols.toNat)
    (failed : partialSum mul add (a.cell i) (b.cell · j) k = .error fault) :
    ProductFails mul add a b fault := by
  induction k with
  | zero => exact .mul row col inner failed
  | succ k ih =>
    rcases bind_eq_error failed with earlier | ⟨total, sum, failed⟩
    · exact ih (Nat.lt_of_succ_lt inner) earlier
    · rcases bind_eq_error failed with here | ⟨product, next, failed⟩
      · exact .mul row col inner here
      · exact .add row col inner sum next failed

theorem dotFrom_append (mul add : Quantity → Quantity → Except Fault Quantity)
    (total : Option Quantity) (xs ys : List (Quantity × Quantity)) :
    dotFrom mul add total (xs ++ ys) = dotFrom mul add total xs >>= (dotFrom mul add · ys) := by
  induction xs generalizing total with
  | nil => rfl
  | cons xy xs ih =>
    simp only [List.cons_append, dotFrom, ih]
    cases mul xy.1 xy.2 with
    | error fault => rfl
    | ok product =>
      cases total with
      | none => rfl
      | some t => exact (bind_assoc (add t product) _ _).symm

/-- Adding up products from nothing makes their partial sums. -/
theorem dotFrom_range (x y : Nat → Quantity) (n : Nat) :
    dotFrom mul add none ((List.range (n + 1)).map fun k => (x k, y k))
      = some <$> partialSum mul add x y n := by
  induction n with
  | zero =>
    change dotFrom mul add none [(x 0, y 0)] = some <$> mul (x 0) (y 0)
    rw [dotFrom]
    cases mul (x 0) (y 0) <;> rfl
  | succ n ih =>
    rw [List.range_succ, List.map_append, dotFrom_append, ih, partialSum]
    cases partialSum mul add x y n with
    | error fault => rfl
    | ok total =>
      change dotFrom mul add (some total) [(x (n + 1), y (n + 1))] = _
      rw [dotFrom]
      cases mul (x (n + 1)) (y (n + 1)) with
      | error fault => rfl
      | ok product => cases add total product <;> rfl

/-- The pairs of a table, row by row. -/
theorem getElem?_flatMap_map {α β γ : Type} (g : α → β → γ) (xs : List α) (ys : List β) {i j : Nat}
    (col : j < ys.length) : (xs.flatMap fun x => ys.map (g x))[i * ys.length + j]?
      = xs[i]?.bind fun x => ys[j]?.map (g x) := by
  induction xs generalizing i with
  | nil => simp
  | cons x xs ih =>
    rw [List.flatMap_cons]
    cases i with
    | zero =>
      rw [Nat.zero_mul, Nat.zero_add, List.getElem?_append_left (by simpa using col)]
      simp
    | succ i =>
      have later : (ys.map (g x)).length ≤ (i + 1) * ys.length + j := by
        rw [List.length_map, Nat.succ_mul]
        omega
      have place : (i + 1) * ys.length + j - (ys.map (g x)).length = i * ys.length + j := by
        rw [List.length_map, Nat.succ_mul]
        omega
      rw [List.getElem?_append_right later, place, ih, List.getElem?_cons_succ]

theorem map_some_filterMap_id {α : Type} {xs : List (Option α)}
    (present : ∀ x ∈ xs, x.isSome = true) : (xs.filterMap id).map some = xs := by
  induction xs with
  | nil => rfl
  | cons x xs ih =>
    obtain ⟨here, later⟩ := List.forall_mem_cons.1 present
    obtain ⟨a, rfl⟩ := Option.isSome_iff_exists.1 here
    exact congrArg (some a :: ·) (ih later)

/-- What is multiplied for the cells of a product, cell by cell. -/
theorem IsFilled.getElem?_pairs (ha : a.IsFilled) (hb : b.IsFilled) (fit : a.cols = b.rows)
    {i j : Nat} (row : i < a.rows.toNat) (col : j < b.cols.toNat) :
    (a.rowCells.flatMap fun row => b.colCells.map fun col => row.zip col)[i * b.cols.toNat + j]?
      = some ((List.range a.cols.toNat).map fun k => (a.cell i k, b.cell k j)) := by
  have places := getElem?_flatMap_map List.zip a.rowCells b.colCells (i := i) (j := j)
    (by rwa [length_colCells])
  rw [length_colCells] at places
  rw [places, ha.rowCells_eq, hb.colCells_eq, List.getElem?_map, List.getElem?_map,
    List.getElem?_range row, List.getElem?_range col, ← fit]
  simp [List.zip_map']

/-- A product of matrices that fit is filled by the sums along their rows and columns. -/
theorem fills_product (ha : a.IsFilled) (hb : b.IsFilled) (fit : a.cols = b.rows) :
    Fills a.rows b.cols (dot mul add a b) (product mul add a b) := by
  have inner : a.cols.toNat - 1 + 1 = a.cols.toNat := by
    have := ha.cols
    omega
  have sum (i j : Nat) : dotFrom mul add none
      ((List.range a.cols.toNat).map fun k => (a.cell i k, b.cell k j))
        = some <$> dot mul add a b i j := by
    rw [dot, ← dotFrom_range, inner]
  have size : (a.rowCells.flatMap fun row => b.colCells.map fun col => row.zip col).length
      = a.rows.toNat * b.cols.toNat := by
    have length := ha.length_pairs hb
    have rows := ha.rows
    have cols := hb.cols
    rw [← Int.natCast_inj, length, Int.natCast_mul, Int.toNat_of_nonneg (by omega),
      Int.toNat_of_nonneg (by omega)]
  cases done : traverse (dotFrom mul add none)
      (a.rowCells.flatMap fun row => b.colCells.map fun col => row.zip col) with
  | error fault =>
    obtain ⟨k, pairs, at_k, failed⟩ := exists_of_traverse_error done
    obtain ⟨i, row, j, col, rfl⟩ := exists_place (size ▸ (List.getElem?_eq_some_iff.1 at_k).1)
    obtain rfl := Option.some.inj ((ha.getElem?_pairs hb fit row col).symm.trans at_k)
    rw [product_of_traverse_error fit done]
    exact ⟨i, row, j, col, map_eq_error (sum i j ▸ failed)⟩
  | ok cells =>
    have at_place (i : Nat) (row : i < a.rows.toNat) (j : Nat) (col : j < b.cols.toNat) :
        ∃ q, dot mul add a b i j = .ok q ∧ cells.1[i * b.cols.toNat + j]? = some (some q) := by
      obtain ⟨cell?, calculated, here⟩ := getElem?_of_traverse done (ha.getElem?_pairs hb fit row col)
      obtain ⟨q, dotted, rfl⟩ := map_eq_ok (sum i j ▸ calculated)
      exact ⟨q, dotted, here⟩
    have present : ∀ cell? ∈ cells.1, cell?.isSome = true := by
      intro cell? mem
      obtain ⟨k, at_k⟩ := List.getElem?_of_mem mem
      have inside := (List.getElem?_eq_some_iff.1 at_k).1
      rw [cells.2, size] at inside
      obtain ⟨i, row, j, col, rfl⟩ := exists_place inside
      obtain ⟨q, -, here⟩ := at_place i row j col
      obtain rfl := Option.some.inj (here.symm.trans at_k)
      rfl
    obtain ⟨size', made⟩ := product_of_traverse ha hb fit done present
    rw [made]
    refine ⟨rfl, rfl, fun i row j col => ?_⟩
    obtain ⟨q, dotted, here⟩ := at_place i row j col
    rw [← map_some_filterMap_id present, List.getElem?_map] at here
    obtain ⟨q', found, same⟩ := Option.map_eq_some_iff.1 here
    obtain rfl := Option.some.inj same
    rw [dotted]
    change _ = Except.ok ((cells.1.filterMap id)[i * b.cols.toNat + j]?.getD .zero)
    rw [found, Option.getD_some]

theorem productFails_of_dot (ha : a.IsFilled) {i j : Nat} {fault : Fault} (row : i < a.rows.toNat)
    (col : j < b.cols.toNat) (failed : dot mul add a b i j = .error fault) :
    ProductFails mul add a b fault := by
  have cols := ha.cols
  exact productFails_of_partialSum row col (by omega) failed

/-! ### Powers -/

/-- What square and multiply makes of a matrix: the matrix, and products of such matrices. -/
inductive Generated (mul add : Quantity → Quantity → Except Fault Quantity) (m : QuantityMatrix) :
    QuantityMatrix → Prop where
  | self : Generated mul add m m
  | product {a b r : QuantityMatrix} (ha : Generated mul add m a) (hb : Generated mul add m b)
      (made : product mul add a b = .ok r) : Generated mul add m r

/-- Every one of these matrices has the shape of the first. -/
theorem Generated.shape (h : m.IsFilled) (square : m.rows = m.cols)
    (generated : Generated mul add m c) : c.IsFilled ∧ c.rows = m.rows ∧ c.cols = m.cols := by
  induction generated with
  | self => exact ⟨h, rfl, rfl⟩
  | @product a b r _ _ made iha ihb =>
    obtain ⟨ha, arows, acols⟩ := iha
    obtain ⟨hb, brows, bcols⟩ := ihb
    have fit : a.cols = b.rows := by rw [acols, brows, square]
    obtain ⟨rows, cols, -⟩ := (fills_product ha hb fit).ok made
    exact ⟨⟨rows ▸ ha.rows, cols ▸ hb.cols, fun _ _ => trivial⟩, rows.trans arows,
      cols.trans bcols⟩

/-- A positive integer power is made of products; if it fails, one of these has failed. -/
theorem powFrom_yields_generated (h : m.IsFilled) (square : m.rows = m.cols) (bits n : Nat) :
    Yields (Generated mul add m)
      (fun fault => ∃ a b, Generated mul add m a ∧ Generated mul add m b
        ∧ ProductFails mul add a b fault) (powFrom mul add bits n m none) := by
  refine powFrom_yields (fun a b ha hb => ?_) .self (by simp)
  obtain ⟨fillsa, -, acols⟩ := ha.shape h square
  obtain ⟨fillsb, brows, -⟩ := hb.shape h square
  have fit : a.cols = b.rows := by rw [acols, brows, square]
  cases made : product mul add a b with
  | error fault =>
    obtain ⟨i, row, j, col, failed⟩ := (fills_product fillsa fillsb fit).error made
    exact ⟨a, b, ha, hb, productFails_of_dot fillsa row col failed⟩
  | ok r => exact .product ha hb made

/-- A scalar that is a positive integer, whatever its representation. -/
def IsCount (x : Scalar) : Prop := ∃ n : Int, 1 ≤ n ∧ x.toRat? = some (n : ℚ)

/-- What is wrong with the exponent of a square matrix that is no positive integer. -/
def exponentFault : Scalar → Fault
  | .infinite false => .infiniteCount
  | x => if x.IsSignaling then .signal .invalidOperation else .matrixExponent x

/-- The power to an exponent that is a positive integer is found by square and multiply. -/
theorem power_of_toRat? (square : m.rows = m.cols) {x : Scalar} {n : Int} (pos : 1 ≤ n)
    (whole : x.toRat? = some (n : ℚ)) :
    power mul add m x = powFrom mul add (n.toNat.log2 + 1) n.toNat m none := by
  obtain ⟨d, rfl, value⟩ := Scalar.exists_finite_of_toRat? whole
  have plain : d.negative = false := by
    have positive : 0 < d.toRat := value ▸ Int.cast_pos.2 pos
    by_contra negative
    exact absurd (Decimal.toRat_nonpos (Bool.eq_true_of_not_eq_false negative)) (not_le.2 positive)
  unfold power
  rw [if_neg (not_not.2 square)]
  simp only [plain, Bool.false_eq_true, if_false, Decimal.toInt?_eq_some_iff.2 value]
  exact if_neg (by omega)

theorem power_of_not_isCount (square : m.rows = m.cols) {x : Scalar} (other : ¬ IsCount x) :
    power mul add m x = .error (exponentFault x) := by
  unfold power
  rw [if_neg (not_not.2 square)]
  cases x with
  | finite d =>
    have least (n : Int) (whole : (if d.negative then none else d.toInt?) = some n) : n < 1 := by
      by_contra pos
      refine other ⟨n, Int.not_lt.1 pos, congrArg some (Decimal.toInt?_eq_some_iff.1 ?_)⟩
      split at whole
      · exact nomatch whole
      · exact whole
    cases whole : if d.negative then none else d.toInt? with
    | none =>
      simp only [whole]
      rfl
    | some n =>
      simp only [whole, if_pos (least n whole)]
      rfl
  | infinite negative => cases negative <;> rfl
  | nan negative signaling payload => cases signaling <;> rfl

end CalcSheet.QuantityMatrix
