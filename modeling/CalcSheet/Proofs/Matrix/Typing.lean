import CalcSheet.Proofs.Matrix.Products
import CalcSheet.Report

/-!
# Operators on matrices

Which operands an operator takes if one of them is a matrix, what it makes of them and how it fails.
Operands that do not go together are reported as a mismatch of shapes; an exponent that is infinite
or a signaling NaN is not.
-/
namespace CalcSheet

/-- Whether a fault is reported as a mismatch of shapes. -/
def Fault.IsShapeMismatch (fault : Fault) : Prop := (Report.ofFault fault).kind = .shapeMismatch

namespace Fault

/-- The faults of operations on quantities. -/
def IsOfQuantities : Fault → Prop
  | signal _ | sum _ _ | conversion _ _ | quotient _ _ | zeroToNegative | exponentUnit _
  | fractionalPower _ _ | infiniteCount => True
  | _ => False

theorem not_isShapeMismatch_ofBreakdown (cause : Breakdown) :
    (Report.ofBreakdown cause).kind ≠ .shapeMismatch := by
  cases cause with
  | layout cause => cases cause <;> exact nofun
  | infiniteCount => exact nofun
  | unwritable => exact nofun

/-- A fault of quantities is not taken for one of shapes, whether it can be written or not. -/
theorem IsOfQuantities.not_isShapeMismatch {fault : Fault} (h : fault.IsOfQuantities) :
    ¬ fault.IsShapeMismatch := by
  unfold IsShapeMismatch Report.ofFault
  cases fault.breakdown? with
  | some cause => exact not_isShapeMismatch_ofBreakdown cause
  | none => cases fault <;> first | exact h.elim | exact nofun

end Fault

namespace Quantity
open Fault (IsOfQuantities)

/-- A calculation has any result, or else one of the faults of quantities. -/
abbrev KeepsToQuantities (r : Except Fault α) : Prop := Yields (fun _ => True) IsOfQuantities r

theorem keepsToQuantities_lift (r : Except Decimal.Signal α) :
    KeepsToQuantities (lift r) := by
  cases r <;> trivial

theorem keepsToQuantities_ofConversion (r : Except PhysicalUnit.ConversionFault α) :
    KeepsToQuantities (ofConversion r) := by
  cases r with
  | error fault => cases fault <;> trivial
  | ok a => trivial

theorem keepsToQuantities_collapse (value : Scalar) (u : PhysicalUnit) :
    KeepsToQuantities (collapse value u) := by
  unfold collapse
  split
  · exact (keepsToQuantities_lift _).bind fun _ _ => trivial
  · trivial

theorem keepsToQuantities_add (x y : Quantity) : KeepsToQuantities (x.add y) := by
  unfold add
  split
  · trivial
  · split
    · exact (keepsToQuantities_lift _).bind fun _ _ => trivial
    · refine (keepsToQuantities_ofConversion _).bind fun _ _ => ?_
      exact (keepsToQuantities_lift _).bind fun _ _ => (keepsToQuantities_lift _).bind fun _ _ => trivial

theorem keepsToQuantities_sub (x y : Quantity) : KeepsToQuantities (x.sub y) :=
  Yields.bind (p := fun _ => True) ((keepsToQuantities_lift _).bind fun _ _ => trivial)
    fun opposite _ => keepsToQuantities_add x opposite

theorem keepsToQuantities_mul (x y : Quantity) : KeepsToQuantities (x.mul y) := by
  refine (keepsToQuantities_lift _).bind fun value _ => ?_
  split
  · exact (keepsToQuantities_lift _).bind fun _ _ => keepsToQuantities_collapse _ _
  · trivial
  · trivial

theorem keepsToQuantities_div (x y : Quantity) : KeepsToQuantities (x.div y) := by
  refine (keepsToQuantities_lift _).bind fun zero _ => ?_
  split
  · trivial
  · refine (keepsToQuantities_lift _).bind fun value _ => ?_
    split
    · trivial
    · exact (keepsToQuantities_lift _).bind fun _ _ => keepsToQuantities_collapse _ _
    · exact (keepsToQuantities_lift _).bind fun _ _ => keepsToQuantities_collapse _ _

theorem keepsToQuantities_powUnit (x : Quantity) (u : PhysicalUnit) (y : Quantity) :
    KeepsToQuantities (powUnit x u y) := by
  have count : KeepsToQuantities (wholeExponent? y.value) := by
    unfold wholeExponent?
    split
    · trivial
    · trivial
    · split <;> trivial
  refine count.bind fun n? _ => ?_
  cases n? with
  | none => trivial
  | some n =>
    dsimp only
    split
    · trivial
    · exact (keepsToQuantities_lift _).bind fun _ _ =>
        (keepsToQuantities_lift _).bind fun _ _ => trivial

theorem keepsToQuantities_pow (x y : Quantity) : KeepsToQuantities (x.pow y) := by
  unfold pow
  split
  · trivial
  · refine (keepsToQuantities_lift _).bind fun invertsZero _ => ?_
    split
    · trivial
    · split
      · exact (keepsToQuantities_lift _).bind fun _ _ => trivial
      · exact keepsToQuantities_powUnit _ _ _

/-- An operator on two quantities keeps to the faults of quantities. -/
theorem keepsToQuantities_binary (op : BinaryOp) (x y : Quantity) :
    KeepsToQuantities (binary op x y) := by
  cases op with
  | add => exact keepsToQuantities_add x y
  | sub => exact keepsToQuantities_sub x y
  | mul => exact keepsToQuantities_mul x y
  | div => exact keepsToQuantities_div x y
  | pow => exact keepsToQuantities_pow x y

end Quantity

namespace QuantityMatrix

theorem ProductFails.isOfQuantities {a b : QuantityMatrix} {fault : Fault}
    (fails : ProductFails Quantity.mul Quantity.add a b fault) : fault.IsOfQuantities := by
  cases fails with
  | mul row col inner failed => exact (Quantity.keepsToQuantities_mul _ _).error failed
  | add row col inner sum next failed => exact (Quantity.keepsToQuantities_add _ _).error failed

end QuantityMatrix

namespace Value
open QuantityMatrix

/-- A number, or a matrix with at least one row and one column. -/
abbrev IsFilled (v : Value) : Prop := v.Holds fun _ => True

def IsMatrix : Value → Prop
  | .number _ => False
  | .matrix _ => True

/-- The cell of a matrix, or else the number itself wherever it stands. -/
def cell : Value → Nat → Nat → Quantity
  | .number q, _, _ => q
  | .matrix m, i, j => m.cell i j

/-- The operands that go together if one of them is a matrix. -/
inductive Combines : BinaryOp → Value → Value → Prop where
  | add {a b : QuantityMatrix} (same : a.SameShape b) : Combines .add (.matrix a) (.matrix b)
  | sub {a b : QuantityMatrix} (same : a.SameShape b) : Combines .sub (.matrix a) (.matrix b)
  | mul {a b : QuantityMatrix} (fit : a.cols = b.rows) : Combines .mul (.matrix a) (.matrix b)
  | mulRight (a : QuantityMatrix) (y : Quantity) : Combines .mul (.matrix a) (.number y)
  | mulLeft (x : Quantity) (b : QuantityMatrix) : Combines .mul (.number x) (.matrix b)
  | divRight (a : QuantityMatrix) (y : Quantity) : Combines .div (.matrix a) (.number y)
  | pow {a : QuantityMatrix} {y : Quantity} (square : a.rows = a.cols) (plain : y.unit = none)
      (count : IsCount y.value) : Combines .pow (.matrix a) (.number y)

/-- The rows of the first and the columns of the last matrix. -/
def resultShape : Value → Value → Shape
  | .matrix a, .matrix b => some (a.rows, b.cols)
  | .matrix a, .number _ => some (a.rows, a.cols)
  | .number _, right => right.shape

/-- A matrix has been calculated from the operands: its cells from the cells in the same places, or
from a row and a column; a power is made of products. -/
def IsCalculated (op : BinaryOp) (left right : Value) (r : QuantityMatrix) : Prop :=
  match op, left, right with
  | .mul, .matrix a, .matrix b => ∀ i < r.rows.toNat, ∀ j < r.cols.toNat,
      dot Quantity.mul Quantity.add a b i j = .ok (r.cell i j)
  | .pow, .matrix a, .number _ => Generated Quantity.mul Quantity.add a r
  | op, left, right => ∀ i < r.rows.toNat, ∀ j < r.cols.toNat,
      Quantity.binary op (left.cell i j) (right.cell i j) = .ok (r.cell i j)

/-- One of these calculations has failed. -/
def FailsInCell (op : BinaryOp) (left right : Value) (fault : Fault) : Prop :=
  match op, left, right with
  | .mul, .matrix a, .matrix b => ProductFails Quantity.mul Quantity.add a b fault
  | .pow, .matrix a, .number _ => ∃ b c, Generated Quantity.mul Quantity.add a b
      ∧ Generated Quantity.mul Quantity.add a c ∧ ProductFails Quantity.mul Quantity.add b c fault
  | op, left, right => ∃ rows cols, resultShape left right = some (rows, cols)
      ∧ ∃ i < rows.toNat, ∃ j < cols.toNat,
        Quantity.binary op (left.cell i j) (right.cell i j) = .error fault

/-- The exponent of a square matrix is compared and counted although it is infinite or a signaling
NaN. -/
def IsUncountable (op : BinaryOp) (left right : Value) : Prop :=
  match op, left, right with
  | .pow, .matrix a, .number y =>
      a.rows = a.cols ∧ y.unit = none ∧ (y.value = .infinite false ∨ y.value.IsSignaling)
  | _, _, _ => False

/-- What is wrong with operands that do not go together. -/
def mismatch (op : BinaryOp) (left right : Value) : Fault :=
  match op, left, right with
  | .add, .matrix a, .matrix b | .sub, .matrix a, .matrix b =>
      .unequalShapes a.rows a.cols b.rows b.cols
  | .mul, .matrix a, .matrix b => .innerSizes a.rows a.cols b.rows b.cols
  | .pow, .matrix a, .number y =>
      if y.unit.isNone then
        if a.rows = a.cols then exponentFault y.value else .notSquare a.rows a.cols
      else .operands op left.shape right.shape
  | op, left, right => .operands op left.shape right.shape

variable {op : BinaryOp} {left right : Value}

/-- Operands that do not go together have no result. -/
theorem binary_of_not_combines (matrix : left.IsMatrix ∨ right.IsMatrix)
    (other : ¬ Combines op left right) : binary op left right = .error (mismatch op left right) := by
  cases left with
  | number x =>
    cases right with
    | number y => exact (matrix.elim id id).elim
    | matrix b =>
      cases op with
      | mul => exact absurd (.mulLeft x b) other
      | _ => rfl
  | matrix a =>
    cases right with
    | number y =>
      cases op with
      | mul => exact absurd (.mulRight a y) other
      | div => exact absurd (.divRight a y) other
      | pow =>
        by_cases plain : y.unit.isNone
        · by_cases square : a.rows = a.cols
          · have fails : power Quantity.mul Quantity.add a y.value = .error (exponentFault y.value) :=
              power_of_not_isCount square fun count =>
                other (.pow square (Option.isNone_iff_eq_none.1 plain) count)
            simp [binary, mismatch, plain, square, fails]
          · have fails : power Quantity.mul Quantity.add a y.value
                = .error (.notSquare a.rows a.cols) := if_pos square
            simp [binary, mismatch, plain, square, fails]
        · simp [binary, mismatch, plain]
      | _ => rfl
    | matrix b =>
      cases op with
      | add =>
        have unequal : ¬ a.SameShape b := fun same => other (.add same)
        simp [binary, mismatch, elementwise, unequal]
      | sub =>
        have unequal : ¬ a.SameShape b := fun same => other (.sub same)
        simp [binary, mismatch, elementwise, unequal]
      | mul =>
        have apart : a.cols ≠ b.rows := fun fit => other (.mul fit)
        simp [binary, mismatch, product, apart]
      | _ => rfl

theorem exponentFault_isShapeMismatch (x : Scalar) :
    (exponentFault x).IsShapeMismatch ↔ ¬ (x = .infinite false ∨ x.IsSignaling) := by
  cases x with
  | finite d => exact iff_of_true rfl (by simp [Scalar.IsSignaling])
  | infinite negative =>
    cases negative with
    | false => exact iff_of_false nofun (by simp)
    | true => exact iff_of_true rfl (by simp [Scalar.IsSignaling])
  | nan negative signaling payload =>
    cases signaling with
    | false => exact iff_of_true rfl (by simp [Scalar.IsSignaling])
    | true => exact iff_of_false nofun (by simp [Scalar.IsSignaling])

theorem exponentFault_eq {x : Scalar} (h : x = .infinite false ∨ x.IsSignaling) :
    exponentFault x = .infiniteCount ∨ exponentFault x = .signal .invalidOperation := by
  rcases h with rfl | signaling
  · exact .inl rfl
  · cases x with
    | nan negative signaling' payload =>
      obtain rfl : signaling' = true := signaling
      exact .inr rfl
    | _ => exact signaling.elim

/-- Operands that do not go together are reported as a mismatch of shapes, but for exponents that
cannot be counted. -/
theorem mismatch_isShapeMismatch (op : BinaryOp) (left right : Value) :
    (mismatch op left right).IsShapeMismatch ↔ ¬ IsUncountable op left right := by
  cases op with
  | pow =>
    cases left with
    | number x => exact iff_of_true rfl id
    | matrix a =>
      cases right with
      | matrix b => exact iff_of_true rfl id
      | number y =>
        simp only [mismatch, IsUncountable]
        split
        · next plain =>
          split
          · next square =>
            rw [exponentFault_isShapeMismatch]
            simp [square, Option.isNone_iff_eq_none.1 plain]
          · next oblong => exact iff_of_true rfl fun uncountable => oblong uncountable.1
        · next attached =>
          exact iff_of_true rfl fun uncountable =>
            attached (Option.isNone_iff_eq_none.2 uncountable.2.1)
  | _ => cases left <;> cases right <;> exact iff_of_true rfl id

theorem IsUncountable.mismatch_eq (uncountable : IsUncountable op left right) :
    mismatch op left right = .infiniteCount ∨ mismatch op left right = .signal .invalidOperation := by
  unfold IsUncountable at uncountable
  split at uncountable
  · next a y =>
    obtain ⟨square, plain, exponent⟩ := uncountable
    simp only [mismatch, plain, square, Option.isNone_none, if_true]
    exact exponentFault_eq exponent
  · exact uncountable.elim

/-- What is calculated cell by cell is a matrix of the same shape, or a calculation has failed. -/
theorem yields_of_fills {rows cols : Int} {calculation : Nat → Nat → Except Fault Quantity}
    {x : Except Fault QuantityMatrix} (filled : Fills rows cols calculation x) :
    Yields (fun v => ∃ r, v = Value.matrix r ∧ r.shape = some (rows, cols)
        ∧ ∀ i < r.rows.toNat, ∀ j < r.cols.toNat, calculation i j = .ok (r.cell i j))
      (fun fault => ∃ i < rows.toNat, ∃ j < cols.toNat, calculation i j = .error fault)
      (Value.matrix <$> x) := by
  refine filled.map fun r => ?_
  rintro ⟨rfl, rfl, cells⟩
  exact ⟨r, rfl, rfl, cells⟩

/-- Operands that go together have a result of the right shape, calculated from their cells, or else
one of these calculations has failed. -/
theorem binary_of_combines (hleft : left.IsFilled) (hright : right.IsFilled)
    (combines : Combines op left right) :
    Yields (fun v => ∃ r, v = .matrix r ∧ r.shape = resultShape left right
        ∧ IsCalculated op left right r)
      (FailsInCell op left right) (binary op left right) := by
  cases combines with
  | @add a b same =>
    have shape : resultShape (.matrix a) (.matrix b) = some (a.rows, a.cols) := by
      rw [resultShape, same.2]
    rw [shape]
    exact (yields_of_fills (fills_elementwise Quantity.add hleft hright same)).imp
      (fun _ made => made) fun _ failed => ⟨_, _, shape, failed⟩
  | @sub a b same =>
    have shape : resultShape (.matrix a) (.matrix b) = some (a.rows, a.cols) := by
      rw [resultShape, same.2]
    rw [shape]
    exact (yields_of_fills (fills_elementwise Quantity.sub hleft hright same)).imp
      (fun _ made => made) fun _ failed => ⟨_, _, shape, failed⟩
  | @mul a b fit =>
    refine (yields_of_fills (fills_product hleft hright fit)).imp (fun _ made => made) ?_
    rintro fault ⟨i, row, j, col, failed⟩
    exact productFails_of_dot hleft row col failed
  | mulRight a y =>
    exact (yields_of_fills (fills_mapCells (Quantity.mul · y) hleft)).imp
      (fun _ made => made) fun _ failed => ⟨_, _, rfl, failed⟩
  | mulLeft x b =>
    exact (yields_of_fills (fills_mapCells (Quantity.mul x) hright)).imp
      (fun _ made => made) fun _ failed => ⟨_, _, rfl, failed⟩
  | divRight a y =>
    exact (yields_of_fills (fills_mapCells (Quantity.div · y) hleft)).imp
      (fun _ made => made) fun _ failed => ⟨_, _, rfl, failed⟩
  | @pow a y square plain count =>
    obtain ⟨n, pos, whole⟩ := count
    have power : binary .pow (.matrix a) (.number y)
        = .matrix <$> powFrom Quantity.mul Quantity.add (n.toNat.log2 + 1) n.toNat a none := by
      simp [binary, plain, power_of_toRat? square pos whole]
    rw [power]
    refine (powFrom_yields_generated hleft square _ _).map fun r made => ?_
    obtain ⟨-, rows, cols⟩ := made.shape hleft square
    exact ⟨r, rfl, by rw [QuantityMatrix.shape, rows, cols, resultShape], made⟩

theorem FailsInCell.isOfQuantities {fault : Fault} (fails : FailsInCell op left right fault) :
    fault.IsOfQuantities := by
  unfold FailsInCell at fails
  split at fails
  · exact fails.isOfQuantities
  · obtain ⟨b, c, -, -, fails⟩ := fails
    exact fails.isOfQuantities
  · obtain ⟨rows, cols, -, i, -, j, -, failed⟩ := fails
    exact (Quantity.keepsToQuantities_binary _ _ _).error failed

theorem IsUncountable.not_combines (uncountable : IsUncountable op left right) :
    ¬ Combines op left right := by
  rintro combines
  cases combines with
  | pow square plain count =>
    obtain ⟨n, -, whole⟩ := count
    obtain ⟨d, finite, -⟩ := Scalar.exists_finite_of_toRat? whole
    simp [IsUncountable, finite, Scalar.IsSignaling] at uncountable
  | _ => exact uncountable

/-- An operator on two operands, one of them a matrix, reports a mismatch of shapes just if they do
not go together, unless they are a square matrix and a plain exponent that is infinite or a
signaling NaN. A result has the shape that the operands give it and is calculated from their cells,
and whatever else fails is one of the calculations on cells. -/
theorem binary_matrix (op : BinaryOp) {left right : Value} (hleft : left.IsFilled)
    (hright : right.IsFilled) (matrix : left.IsMatrix ∨ right.IsMatrix) :
    ((∃ fault, binary op left right = .error fault ∧ fault.IsShapeMismatch)
      ↔ ¬ Combines op left right ∧ ¬ IsUncountable op left right)
    ∧ (∀ v, binary op left right = .ok v → Combines op left right
        ∧ ∃ r, v = .matrix r ∧ r.shape = resultShape left right
          ∧ (r.cells.length : Int) = r.rows * r.cols ∧ IsCalculated op left right r)
    ∧ (∀ fault, binary op left right = .error fault → ¬ fault.IsShapeMismatch →
        (Combines op left right ∧ FailsInCell op left right fault)
        ∨ (IsUncountable op left right
          ∧ (fault = .infiniteCount ∨ fault = .signal .invalidOperation))) := by
  by_cases combines : Combines op left right
  · have outcome := binary_of_combines hleft hright combines
    refine ⟨iff_of_false ?_ fun h => h.1 combines, fun v done => ?_, fun fault failed _ => ?_⟩
    · rintro ⟨fault, failed, mismatch⟩
      exact (outcome.error failed).isOfQuantities.not_isShapeMismatch mismatch
    · obtain ⟨r, rfl, shape, calculated⟩ := outcome.ok done
      exact ⟨combines, r, rfl, shape, r.size, calculated⟩
    · exact .inl ⟨combines, outcome.error failed⟩
  · have fails := binary_of_not_combines matrix combines
    refine ⟨?_, fun v done => ?_, fun fault failed other => ?_⟩
    · rw [fails, and_iff_right combines, ← mismatch_isShapeMismatch]
      exact ⟨fun ⟨fault, same, mismatch⟩ => Except.error.inj same ▸ mismatch,
        fun mismatch => ⟨_, rfl, mismatch⟩⟩
    · exact nomatch fails.symm.trans done
    · obtain rfl := Except.error.inj (fails.symm.trans failed)
      rw [mismatch_isShapeMismatch, not_not] at other
      exact .inr ⟨other, other.mismatch_eq⟩

/-- A row of two numbers times a column of two numbers is a single one; their sum is a mismatch. -/
theorem binary_matrix_row_column :
    let row : QuantityMatrix := ⟨1, 2, [.ofDecimal (.ofNat 2), .ofDecimal (.ofNat 3)], rfl⟩
    let column : QuantityMatrix := ⟨2, 1, [.ofDecimal (.ofNat 5), .ofDecimal (.ofNat 7)], rfl⟩
    let single : QuantityMatrix := ⟨1, 1, [.ofDecimal (.ofNat 31)], rfl⟩
    binary .mul (.matrix row) (.matrix column) = .ok (.matrix single)
      ∧ IsCalculated .mul (.matrix row) (.matrix column) single
      ∧ ∃ fault, binary .add (.matrix row) (.matrix column) = .error fault
        ∧ fault.IsShapeMismatch := by
  intro row column single
  have hrow : (Value.matrix row).IsFilled := ⟨by decide, by decide, fun _ _ => trivial⟩
  have hcolumn : (Value.matrix column).IsFilled := ⟨by decide, by decide, fun _ _ => trivial⟩
  have done : binary .mul (.matrix row) (.matrix column) = .ok (.matrix single) := by decide
  obtain ⟨-, results, -⟩ := binary_matrix .mul hrow hcolumn (.inl trivial)
  obtain ⟨-, r, same, -, -, calculated⟩ := results _ done
  obtain rfl := Value.matrix.inj same
  obtain ⟨mismatch, -, -⟩ := binary_matrix .add hrow hcolumn (.inl trivial)
  have apart : ¬ Combines .add (.matrix row) (.matrix column) := by
    rintro (⟨⟨rows, -⟩⟩)
    exact absurd rows (by decide)
  exact ⟨done, calculated, mismatch.2 ⟨apart, id⟩⟩

/-- A matrix to the power of an infinite number is no mismatch of shapes. -/
theorem not_forall_isShapeMismatch :
    ¬ ∀ (op : BinaryOp) (left right : Value), left.IsFilled → right.IsFilled →
      left.IsMatrix ∨ right.IsMatrix →
      ((∃ fault, binary op left right = .error fault ∧ fault.IsShapeMismatch)
        ↔ ¬ Combines op left right) := by
  intro always
  let a : QuantityMatrix := ⟨1, 1, [.ofDecimal (.ofNat 2)], rfl⟩
  let infinity : Quantity := .ofScalar (.infinite false)
  have ha : (Value.matrix a).IsFilled := ⟨by decide, by decide, fun _ _ => trivial⟩
  have uncountable : IsUncountable .pow (.matrix a) (.number infinity) := ⟨rfl, rfl, .inl rfl⟩
  have fails : binary .pow (.matrix a) (.number infinity) = .error .infiniteCount := by decide
  obtain ⟨fault, failed, mismatch⟩ :=
    (always .pow (.matrix a) (.number infinity) ha trivial (.inl trivial)).2 uncountable.not_combines
  obtain rfl := Except.error.inj (fails.symm.trans failed)
  exact absurd mismatch nofun

end Value
end CalcSheet
