import CalcSheet.Display.Result
import CalcSheet.Proofs.Evaluation.Finite
import CalcSheet.Proofs.Scalar.Range

/-!
# Which results can be displayed

A result is displayed, unless one of its numbers overflows on the way to a derived unit, is rounded
out of the exponent range, or has a unit that cannot be written.
-/
namespace CalcSheet
open Decimal

/-! ### Numerals -/

namespace Numeral

/-- How many digits a base shows behind the point, where `places` are asked for. -/
def Base.places (places : Int) : Base → Int
  | .decimal => places
  | .binary | .hexadecimal => 0

variable {x : Decimal} {places : Int}

theorem Base.places_nonneg (base : Base) (nonneg : 0 ≤ places) : 0 ≤ base.places places := by
  cases base with
  | decimal => exact nonneg
  | _ => exact Int.le_refl 0

theorem precisionOf_eq (range : x.order ≤ maxOrder) (few : places ≤ maxOrder) :
    ∃ p, precisionOf (.finite x) places = .ok p ∧ workingPrecision ≤ p
      ∧ x.order + places + 2 ≤ p := by
  have limit : maxOrder = 999999 := rfl
  have most : maxPrecision = 999999999999999999 := rfl
  have least : (workingPrecision : Int) = 50 := rfl
  unfold precisionOf
  dsimp only [Scalar.order]
  rw [if_neg (by omega)]
  exact ⟨_, rfl, by omega, by omega⟩

theorem minExponent_le_neg {p : Nat} (pos : 0 < p) (few : places ≤ maxOrder) :
    minExponent p ≤ -places := by
  have limit : maxOrder = 999999 := rfl
  unfold minExponent minOrder
  omega

theorem lastPlace_eq {p : Nat} (pos : 0 < p) (least : -maxOrder ≤ places)
    (few : places ≤ maxOrder) : lastPlace p places = .ok (-places) := by
  have limit : maxOrder = 999999 := rfl
  have low := minExponent_le_neg pos few
  unfold lastPlace
  rw [if_neg (by omega), if_neg (by omega), Int.max_eq_right low]

/-- A number is rounded to its last place, unless this takes it out of the exponent range. -/
theorem roundTo_succeedsIff {p : Nat} (range : x.order ≤ maxOrder) (least : -maxOrder ≤ places)
    (few : places ≤ maxOrder) (precise : workingPrecision ≤ p) (room : x.order + places + 2 ≤ p) :
    SucceedsIff ((x.rounded places).order ≤ maxOrder) (· = .signal .invalidOperation)
      (roundTo p (.finite x) (-places)) := by
  have short : ¬ (¬ x.IsZero ∧ maxPadding < x.exponent - -places) := by
    have order : x.order = x.exponent + Digits.count x.coefficient - 1 := rfl
    have some_ := Digits.one_le_count x.coefficient
    have limit : maxOrder = 999999 := rfl
    have most : maxPadding = 100000000000 := rfl
    omega
  have pos : 0 < p := Nat.lt_of_lt_of_le (by decide) precise
  have quantized := quantize_rounded range least pos room (minExponent_le_neg pos few)
  unfold roundTo
  dsimp only
  rw [if_neg short]
  exact (quantized.map Scalar.finite).mapError fun _ same => congrArg _ same

theorem isFinite_of_roundTo {p : Nat} {e : Int} {y : Scalar}
    (rounded : roundTo p (.finite x) e = .ok y) : y.IsFinite := by
  unfold roundTo at rounded
  dsimp only at rounded
  split at rounded
  · cases rounded
  · exact Scalar.isFinite_of_map (mapError_eq_ok rounded)

theorem integer_succeedsIff (radix : Nat) (range : x.order ≤ maxOrder) :
    SucceedsIff ((x.rounded 0).order ≤ maxOrder) (· = .signal .invalidOperation)
      (integer radix (.finite x)) := by
  obtain ⟨p, precision, precise, room⟩ := @precisionOf_eq x 0 range (by decide)
  have rounded := roundTo_succeedsIff range (by decide) (by decide) precise room
  unfold integer
  rw [precision]
  refine rounded.bind_ok fun y done => ?_
  obtain ⟨d, rfl⟩ := (isFinite_of_roundTo done).eq_finite
  exact ⟨_, rfl⟩

theorem decimal_succeedsIff (range : x.order ≤ maxOrder) (least : -maxOrder ≤ places)
    (few : places ≤ maxOrder) :
    SucceedsIff ((x.rounded places).order ≤ maxOrder) (· = .signal .invalidOperation)
      (decimal (.finite x) places) := by
  obtain ⟨p, precision, precise, room⟩ := precisionOf_eq range few
  have rounded := roundTo_succeedsIff range least few precise room
  unfold decimal
  rw [precision]
  change SucceedsIff _ _ ((lastPlace p places).mapError _ >>= fun e => _)
  rw [lastPlace_eq (Nat.lt_of_lt_of_le (by decide) precise) least few]
  exact rounded.bind_ok fun y _ => ⟨_, rfl⟩

end Numeral

/-! ### Units -/

namespace PhysicalUnit

/-- A derived unit has the dimensions of the unit that it replaces, a factor other than zero and a
text. -/
theorem derived?_spec {u d : PhysicalUnit} (derived : u.derived? = some d) :
    d.dimensions = u.dimensions ∧ d.factor.IsInvertible ∧ d.text ≠ [] := by
  have same := List.find?_some derived
  obtain ⟨name, known, found⟩ := List.mem_filterMap.1 (List.mem_of_find?_eq_some derived)
  obtain ⟨w, parsed, read⟩ := derivedNames_read name known
  rw [parsed] at found
  obtain rfl := Option.some.inj found
  exact ⟨of_decide_eq_true same, read⟩

theorem isInvertible_derived? {u d : PhysicalUnit} (derived : u.derived? = some d) :
    d.factor.IsInvertible := (derived?_spec derived).2.1

/-- Rescaling to a unit that is not zero can overflow, and nothing else. -/
theorem overflow_of_conversionFactor {u d : PhysicalUnit} {s : Signal} (finite : u.factor.IsFinite)
    (invertible : d.factor.IsInvertible)
    (failed : conversionFactor (some u) (some d) = .error (.signal s)) : s = .overflow := by
  unfold conversionFactor at failed
  split at failed
  · cases failed
  · obtain ⟨_, broken, same⟩ := mapError_eq_error failed
    obtain rfl := ConversionFault.signal.inj same
    rcases bind_eq_error broken with incomparable | ⟨same, -, broken⟩
    · obtain ⟨x, hx⟩ := finite.eq_finite
      obtain ⟨y, hy⟩ := invertible.isFinite.eq_finite
      simp only [Option.map_some, Option.getD_some, hx, hy] at incomparable
      cases incomparable
    · split at broken
      · cases broken
      · exact Scalar.overflowsOnly_div finite invertible _ broken

end PhysicalUnit

namespace Displayed
open Numeral

variable {x : Decimal} {places : Int} {base : Base} {converted : Bool} {q r : Quantity}

/-- The quantity that is written out for a number: in its own unit if the line asks for it, or else
in the derived unit, if there is one. -/
def shownAs (converted : Bool) (q : Quantity) : Except Signal Quantity :=
  if converted then .ok q else inDerivedUnit q

/-- The quantities that are written out for a value. The cells of a matrix never keep a compound
unit. -/
def quantities (converted : Bool) : Value → List (Except Signal Quantity)
  | .number q => [shownAs converted q]
  | .matrix m => m.rowCells.flatten.map (shownAs false)

/-- A quantity is written out as it is, or rescaled to a derived unit. -/
theorem shownAs_cases (converted : Bool) (q : Quantity) :
    shownAs converted q = .ok q ∨ ∃ u d, q.unit = some u ∧ u.derived? = some d ∧
      ((∃ s, PhysicalUnit.conversionFactor (some u) (some d) = .error (.signal s)
          ∧ shownAs converted q = .error s)
        ∨ ∃ factor, PhysicalUnit.conversionFactor (some u) (some d) = .ok factor
          ∧ shownAs converted q = (⟨·, some d⟩) <$> q.value.mul workingPrecision factor) := by
  unfold shownAs inDerivedUnit
  split
  · exact .inl rfl
  · split
    · exact .inl rfl
    · next u unit =>
      split
      · exact .inl rfl
      · split
        · exact .inl rfl
        · next d derived =>
          split
          · next s failed => exact .inr ⟨u, d, unit, derived, .inl ⟨s, failed, rfl⟩⟩
          · exact .inl rfl
          · next factor converts =>
            exact .inr ⟨u, d, unit, derived, .inr ⟨factor, converts, rfl⟩⟩

/-- The number of a quantity that is rescaled is rounded to the working precision. -/
theorem isWithin_of_shownAs (shown : shownAs converted q = .ok r) :
    r = q ∨ r.value.IsWithin workingPrecision := by
  rcases shownAs_cases converted q with kept | ⟨u, d, -, -, ⟨s, -, failed⟩ | ⟨factor, -, rescaled⟩⟩
  · exact .inl (Except.ok.inj (shown.symm.trans kept))
  · cases shown.symm.trans failed
  · obtain ⟨value, product, rfl⟩ := map_eq_ok (rescaled.symm.trans shown)
    exact .inr (Scalar.isRounded_mul (by decide) _ _ value product)

/-- The number of a finite quantity can overflow on its way to a derived unit, and nothing else. -/
theorem shownAs_yields (converted : Bool) (finite : q.IsFinite) :
    Yields (·.value.IsFinite) (· = .overflow) (shownAs converted q) := by
  rcases shownAs_cases converted q with kept | ⟨u, d, unit, derived, rescaled⟩
  · rw [kept]
    exact finite.value
  · have hu : u.factor.IsFinite := finite.unit u unit
    have hd := PhysicalUnit.isInvertible_derived? derived
    rcases rescaled with ⟨s, converts, failed⟩ | ⟨factor, converts, rescaled⟩
    · rw [failed]
      exact PhysicalUnit.overflow_of_conversionFactor hu hd converts
    · have hfactor : factor.IsFinite := Quantity.conversionFactor_isFinite
        (by simpa using hu) (by simpa using hd.isFinite) converts
      rw [rescaled]
      cases product : q.value.mul workingPrecision factor with
      | error s => exact Scalar.overflowsOnly_mul finite.value hfactor s product
      | ok value => exact finite.value.mul hfactor product

theorem unitSuffix_succeedsIff (unit : Option PhysicalUnit) :
    SucceedsIff (∀ u ∈ unit, u.IsWritable) (· = .unwritableUnit) (unitSuffix unit) := by
  cases unit with
  | none => exact (SucceedsIff.pure _).congr (by simp)
  | some u =>
    unfold unitSuffix
    dsimp only
    split
    · next writable => exact .inl ⟨by simpa using writable, _, rfl⟩
    · next unwritable => exact .inr ⟨by simpa using unwritable, _, rfl, rfl⟩

/-- A number of at most the largest order has a numeral, unless it is rounded out of the exponent
range. -/
theorem numeral_succeedsIff (base : Base) (range : x.order ≤ maxOrder) (nonneg : 0 ≤ places)
    (few : places ≤ 1000) :
    SucceedsIff ((x.rounded (base.places places)).order ≤ maxOrder)
      (· = .signal .invalidOperation) (numeral base places (.finite x)) := by
  cases base with
  | decimal =>
    have limit : maxOrder = 999999 := rfl
    have least : -maxOrder ≤ places := by omega
    have most : places ≤ maxOrder := by omega
    exact decimal_succeedsIff range least most
  | binary => exact integer_succeedsIff 2 range
  | hexadecimal => exact integer_succeedsIff 16 range

end Displayed

open Displayed Numeral

/-- A finite quantity with no digit above the exponent range. -/
structure Quantity.IsInRange (q : Quantity) : Prop where
  finite : q.IsFinite
  order : q.value.order ≤ maxOrder

/-- How a quantity in the exponent range can fail to be displayed. -/
def DisplayFault.IsExtreme (fault : DisplayFault) : Prop :=
  fault = .signal .overflow ∨ fault = .signal .invalidOperation ∨ fault = .unwritableUnit

namespace Displayed

variable {v : Value}

theorem number_eq (base : Base) (converted : Bool) (places : Int) (q : Quantity) :
    number base converted places q = (shownAs converted q).mapError .signal >>= fun r =>
      numeral base places r.value >>= fun digits => (digits ++ ·) <$> unitSuffix r.unit := by
  cases converted with
  | true => rfl
  | false => rfl

theorem number_succeedsIff_of_shownAs (nonneg : 0 ≤ places) (few : places ≤ 1000)
    (shown : shownAs converted q = .ok r) (finite : r.value.IsFinite)
    (order : r.value.order ≤ maxOrder) :
    SucceedsIff (r.value.StaysInRange (base.places places) ∧ r.IsWritable) DisplayFault.IsExtreme
      (number base converted places q) := by
  obtain ⟨x, value⟩ := finite.eq_finite
  rw [value] at order
  rw [number_eq, shown]
  have digits := (numeral_succeedsIff base order nonneg few).weaken
    fun _ same => (.inr (.inl same) : DisplayFault.IsExtreme _)
  have suffix := (unitSuffix_succeedsIff r.unit).weaken
    fun _ same => (.inr (.inr same) : DisplayFault.IsExtreme _)
  rw [← value] at digits
  exact (digits.bind fun _ _ => suffix.map _).congr
    (by simp [Scalar.StaysInRange, Quantity.IsWritable, value])

theorem number_succeedsIff (base : Base) (converted : Bool) (nonneg : 0 ≤ places)
    (few : places ≤ 1000) (inRange : q.IsInRange) :
    SucceedsIff (∃ r, shownAs converted q = .ok r ∧ r.value.StaysInRange (base.places places)
        ∧ r.IsWritable) DisplayFault.IsExtreme (number base converted places q) := by
  have yields := shownAs_yields converted inRange.finite
  cases shown : shownAs converted q with
  | error s =>
    obtain rfl := yields.error shown
    refine .inr ⟨by simp, .signal .overflow, ?_, .inl rfl⟩
    rw [number_eq, shown]
    rfl
  | ok r =>
    have finite := yields.ok shown
    have order : r.value.order ≤ maxOrder := by
      rcases isWithin_of_shownAs shown with rfl | within
      · exact inRange.order
      · exact within.order finite
    exact (number_succeedsIff_of_shownAs nonneg few shown finite order).congr (by simp)

/-- What holds of the texts of all cells holds of the texts in a grid. -/
theorem forall₂_of_grid {m : QuantityMatrix} {R : Quantity → Text → Prop} {texts : List (List Text)}
    (each : ∀ q ∈ m.cells, ∀ t, number base false places q = .ok t → R q t)
    (written : grid base places m = .ok texts) :
    List.Forall₂ (List.Forall₂ R) m.rowCells texts := by
  have rows := (List.forall₂_and_left _ _).2 ⟨fun row mem => mem, forall₂_of_mapM written⟩
  refine rows.imp fun row texts ⟨mem, written⟩ => ?_
  have cells := (List.forall₂_and_left _ _).2 ⟨fun q inside => inside, forall₂_of_mapM written⟩
  exact cells.imp fun q t ⟨inside, written⟩ =>
    each q (QuantityMatrix.mem_cells_of_mem_rowCells mem inside) t written

/-- A value is displayed if every quantity that is written out for it is. -/
theorem ofValue_succeedsIff_of_number {p : Except Signal Quantity → Prop} {f : DisplayFault → Prop}
    (each : ∀ q ∈ v.cells, ∀ keeps, shownAs keeps q ∈ quantities converted v →
      SucceedsIff (p (shownAs keeps q)) f (number base keeps places q)) :
    SucceedsIff (∀ r? ∈ quantities converted v, p r?) f (ofValue base converted places v) := by
  cases v with
  | number q =>
    have shown := each q (List.mem_singleton.2 rfl) converted (List.mem_singleton.2 rfl)
    exact (shown.bind_ok fun text _ => ⟨_, rfl⟩).congr List.forall_mem_singleton.symm
  | matrix m =>
    have shown : SucceedsIff _ f (grid base places m) :=
      .mapM fun row mem => .mapM fun q inside => each q
        (QuantityMatrix.mem_cells_of_mem_rowCells mem inside) false
        (List.mem_map.2 ⟨q, List.mem_flatten.2 ⟨row, mem, inside⟩, rfl⟩)
    refine (shown.bind_ok fun cells _ => ⟨_, rfl⟩).congr ?_
    simp only [quantities, List.forall_mem_map, List.mem_flatten, forall_exists_index, and_imp]
    exact ⟨fun each q row mem inside => each row mem q inside,
      fun each row mem q inside => each q row mem inside⟩

/-- Which values in the exponent range are displayed, and how displaying the others fails. -/
theorem ofValue_succeedsIff (base : Base) (converted : Bool) (nonneg : 0 ≤ places)
    (few : places ≤ 1000) (inRange : ∀ q ∈ v.cells, q.IsInRange) :
    SucceedsIff (∀ r? ∈ quantities converted v,
        ∃ r, r? = .ok r ∧ r.value.StaysInRange (base.places places) ∧ r.IsWritable)
      DisplayFault.IsExtreme
      (ofValue base converted places v) :=
  ofValue_succeedsIff_of_number fun q mem keeps _ =>
    number_succeedsIff base keeps nonneg few (inRange q mem)

/-- A value with no more digits than the exponent range has places is displayed, if what is written
out for it are numbers in units that can be written. -/
theorem ofValue_of_isWithin (base : Base) (nonneg : 0 ≤ places) (few : places ≤ 1000)
    (within : ∀ q ∈ v.cells, q.value.IsWithin 1000000)
    (written : ∀ r? ∈ quantities converted v, ∃ r, r? = .ok r ∧ r.value.IsFinite ∧ r.IsWritable) :
    ∃ shown, ofValue base converted places v = .ok shown := by
  have each : ∀ q ∈ v.cells, ∀ keeps, shownAs keeps q ∈ quantities converted v →
      SucceedsIff True (fun _ => False) (number base keeps places q) := by
    intro q mem keeps part
    obtain ⟨r, shown, finite, writable⟩ := written _ part
    have kept : r.value.IsWithin 1000000 := by
      rcases isWithin_of_shownAs shown with rfl | rescaled
      · exact within r mem
      · exact rescaled.mono (by decide)
    have inside := kept.staysInRange (base.places_nonneg nonneg)
    have displayed : SucceedsIff (r.value.StaysInRange (base.places places) ∧ r.IsWritable) _ _ :=
      number_succeedsIff_of_shownAs nonneg few shown finite (kept.order finite)
    exact .inl ⟨trivial, displayed.exists_ok_iff.2 ⟨inside, writable⟩⟩
  exact (ofValue_succeedsIff_of_number (p := fun _ => True) each).exists_ok_iff.2
    fun _ _ => trivial

end Displayed
end CalcSheet
