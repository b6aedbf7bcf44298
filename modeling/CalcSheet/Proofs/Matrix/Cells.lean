import CalcSheet.Proofs.Evaluation.Shapes

/-!
# Matrices cell by cell

The cells of a matrix, by row and column, and what each operation calculates for them. A product
adds up the products along a row and a column from left to right.
-/
namespace CalcSheet.QuantityMatrix

variable {α β : Type} {mul add : Quantity → Quantity → Except Fault Quantity}
  {a b m : QuantityMatrix}

/-- A matrix with at least one row and one column. -/
abbrev IsFilled (m : QuantityMatrix) : Prop := m.Holds fun _ => True

/-- The cell in a row and a column, both counted from zero. -/
def cell (m : QuantityMatrix) (i j : Nat) : Quantity :=
  m.cells[i * m.cols.toNat + j]?.getD .zero

theorem place_lt {rows cols i j : Nat} (row : i < rows) (col : j < cols) :
    i * cols + j < rows * cols :=
  calc i * cols + j < i * cols + cols := Nat.add_lt_add_left col _
    _ = (i + 1) * cols := (Nat.succ_mul i cols).symm
    _ ≤ rows * cols := Nat.mul_le_mul_right _ row

/-- Every place in the list of the cells lies in some row and column. -/
theorem exists_place {rows cols k : Nat} (inside : k < rows * cols) :
    ∃ i < rows, ∃ j < cols, k = i * cols + j := by
  have pos : 0 < cols := Nat.pos_of_ne_zero fun zero => by simp [zero] at inside
  refine ⟨k / cols, Nat.div_lt_of_lt_mul (Nat.mul_comm rows cols ▸ inside), k % cols,
    Nat.mod_lt _ pos, ?_⟩
  rw [Nat.mul_comm]
  exact (Nat.div_add_mod k cols).symm

theorem IsFilled.getElem?_cell (h : m.IsFilled) {i j : Nat} (row : i < m.rows.toNat)
    (col : j < m.cols.toNat) : m.cells[i * m.cols.toNat + j]? = some (m.cell i j) := by
  have bound : i * m.cols.toNat + j < m.cells.length := h.size_eq ▸ place_lt row col
  rw [cell, List.getElem?_eq_getElem bound, Option.getD_some]

/-! ### Rows and columns -/

theorem IsFilled.rowCells_eq (h : m.IsFilled) :
    m.rowCells = (List.range m.rows.toNat).map fun i => (List.range m.cols.toNat).map (m.cell i) := by
  refine List.map_congr_left fun i row => List.ext_getElem? fun j => ?_
  rw [List.getElem?_take, List.getElem?_drop, List.getElem?_map]
  split
  · next col =>
    rw [h.getElem?_cell (List.mem_range.1 row) col, List.getElem?_range col, Option.map_some]
  · next outside => simp [List.getElem?_eq_none, Nat.le_of_not_lt outside]

theorem IsFilled.colCells_eq (h : m.IsFilled) :
    m.colCells
      = (List.range m.cols.toNat).map fun j => (List.range m.rows.toNat).map (m.cell · j) := by
  refine List.map_congr_left fun j col => ?_
  have inside (i : Nat) : ((List.range m.cols.toNat).map (m.cell i))[j]? = some (m.cell i j) := by
    rw [List.getElem?_map, List.getElem?_range (List.mem_range.1 col), Option.map_some]
  simp only [h.rowCells_eq, List.filterMap_map, Function.comp_def, inside]
  exact congrFun List.filterMap_eq_map _

/-! ### Calculations for all cells -/

theorem getElem?_of_traverse {f : α → Except Fault β} {xs : List α}
    {ys : { ys : List β // ys.length = xs.length }} (done : traverse f xs = .ok ys) {k : Nat} {x : α}
    (at_k : xs[k]? = some x) : ∃ y, f x = .ok y ∧ ys.1[k]? = some y := by
  induction xs generalizing k with
  | nil => exact nomatch at_k
  | cons x' xs ih =>
    obtain ⟨y, first, done⟩ := bind_eq_ok done
    obtain ⟨rest, others, done⟩ := bind_eq_ok done
    obtain rfl := Except.ok.inj done
    cases k with
    | zero =>
      obtain rfl := Option.some.inj at_k
      exact ⟨y, first, rfl⟩
    | succ k => exact ih others at_k

theorem exists_of_traverse_error {f : α → Except Fault β} {xs : List α} {fault : Fault}
    (failed : traverse f xs = .error fault) : ∃ (k : Nat) (x : α), xs[k]? = some x
      ∧ f x = .error fault := by
  induction xs with
  | nil => exact nomatch failed
  | cons x xs ih =>
    rcases bind_eq_error failed with here | ⟨y, -, failed⟩
    · exact ⟨0, x, rfl, here⟩
    · rcases bind_eq_error failed with later | ⟨rest, -, failed⟩
      · obtain ⟨k, x', at_k, fault⟩ := ih later
        exact ⟨k + 1, x', at_k, fault⟩
      · exact nomatch failed

/-- A matrix of so many rows and columns is made of the results of a calculation for each cell, or
one of these calculations has failed. -/
def Fills (rows cols : Int) (calculation : Nat → Nat → Except Fault Quantity) :
    Except Fault QuantityMatrix → Prop :=
  Yields
    (fun r => r.rows = rows ∧ r.cols = cols ∧ ∀ i < rows.toNat, ∀ j < cols.toNat,
      calculation i j = .ok (r.cell i j))
    fun fault => ∃ i < rows.toNat, ∃ j < cols.toNat, calculation i j = .error fault

/-- What is traversed row by row fills a matrix. -/
theorem fills_traverse {rows cols : Int} {g : Nat → Nat → α} (f : α → Except Fault Quantity)
    {xs : List α} (size : xs.length = rows.toNat * cols.toNat)
    (places : ∀ i < rows.toNat, ∀ j < cols.toNat, xs[i * cols.toNat + j]? = some (g i j))
    (build : { ys : List Quantity // ys.length = xs.length } → QuantityMatrix)
    (shape : ∀ ys, (build ys).rows = rows ∧ (build ys).cols = cols ∧ (build ys).cells = ys.1) :
    Fills rows cols (fun i j => f (g i j)) (build <$> traverse f xs) := by
  cases done : traverse f xs with
  | error fault =>
    obtain ⟨k, x, at_k, failed⟩ := exists_of_traverse_error done
    have inside : k < rows.toNat * cols.toNat := size ▸ (List.getElem?_eq_some_iff.1 at_k).1
    obtain ⟨i, row, j, col, rfl⟩ := exists_place inside
    obtain rfl := Option.some.inj ((places i row j col).symm.trans at_k)
    exact ⟨i, row, j, col, failed⟩
  | ok ys =>
    obtain ⟨height, width, cells⟩ := shape ys
    refine ⟨height, width, fun i row j col => ?_⟩
    obtain ⟨y, calculated, here⟩ := getElem?_of_traverse done (places i row j col)
    exact calculated.trans (by rw [cell, width, cells, here, Option.getD_some])

theorem fills_mapCells (f : Quantity → Except Fault Quantity) (h : m.IsFilled) :
    Fills m.rows m.cols (fun i j => f (m.cell i j)) (m.mapCells f) :=
  fills_traverse f h.size_eq (fun _ row _ col => h.getElem?_cell row col)
    (fun ys => ⟨m.rows, m.cols, ys.1, by rw [ys.2, m.size]⟩) fun _ => ⟨rfl, rfl, rfl⟩

theorem fills_elementwise (f : Quantity → Quantity → Except Fault Quantity) (ha : a.IsFilled)
    (hb : b.IsFilled) (same : a.SameShape b) :
    Fills a.rows a.cols (fun i j => f (a.cell i j) (b.cell i j)) (elementwise f a b) := by
  have size : (a.cells.zip b.cells).length = a.rows.toNat * a.cols.toNat := by
    rw [List.length_zip, ha.size_eq, hb.size_eq, same.1, same.2, Nat.min_self]
  have places (i : Nat) (row : i < a.rows.toNat) (j : Nat) (col : j < a.cols.toNat) :
      (a.cells.zip b.cells)[i * a.cols.toNat + j]? = some (a.cell i j, b.cell i j) := by
    have right := hb.getElem?_cell (same.1 ▸ row) (same.2 ▸ col)
    rw [← same.2] at right
    rw [List.getElem?_zip_eq_some]
    exact ⟨ha.getElem?_cell row col, right⟩
  rw [elementwise, dif_pos same]
  exact fills_traverse (fun xy => f xy.1 xy.2) size places (fun ys => ⟨a.rows, a.cols, ys.1, _⟩)
    fun _ => ⟨rfl, rfl, rfl⟩

end CalcSheet.QuantityMatrix
