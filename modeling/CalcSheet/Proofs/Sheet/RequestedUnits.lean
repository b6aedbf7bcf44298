import CalcSheet.Proofs.Display.Shown
import CalcSheet.Proofs.Display.Texts
import CalcSheet.Proofs.Evaluation.Containment
import CalcSheet.Proofs.Evaluation.Stacks
import CalcSheet.Proofs.Sheet.Passes

/-!
# Units that a line asks for

Where a line ends with a conversion, its number is shown in the unit that it is converted to,
however this unit is made up. So are the cells of a matrix, unless the unit is a compound one for
which there is a derived unit: the cells are then shown in the derived unit.
-/
namespace CalcSheet

/-! ### The last operator -/

/-- Whether the action works on values of the stack. -/
def Action.isOperator : Action → Bool
  | .push _ | .assign => false
  | _ => true

/-- The last action of a line that works on values. -/
def lastOperator? (steps : List Step) : Option Action :=
  (steps.reverse.find? (·.action.isOperator)).map (·.action)

variable {env : Environment} {steps : List Step} {m m' : Machine} {u : PhysicalUnit}
  {q : Quantity} {v w : Value}

/-- Behind the last operator no step is one. -/
theorem exists_eq_of_lastOperator? {a : Action} (last : lastOperator? steps = some a) :
    ∃ front s back, steps = front ++ s :: back ∧ s.action = a ∧
      ∀ t ∈ back, t.action.isOperator = false := by
  obtain ⟨s, found, rfl⟩ := Option.map_eq_some_iff.1 last
  obtain ⟨-, back, front, turned, none⟩ := List.find?_eq_some_iff_append.1 found
  refine ⟨front.reverse, s, back.reverse, ?_, rfl, fun t mem => ?_⟩
  · rw [← List.reverse_reverse steps, turned]
    simp
  · simpa using none t (List.mem_reverse.1 mem)

/-- An assignment in last place is no operator. -/
theorem lastOperator?_calculation (steps : List Step) :
    lastOperator? (calculation steps) = lastOperator? steps := by
  unfold calculation
  split
  · next assigns =>
    rcases List.eq_nil_or_concat' steps with rfl | ⟨front, s, rfl⟩
    · rfl
    · rw [List.getLast?_concat] at assigns
      have action : s.action = .assign := by simpa using assigns
      simp [lastOperator?, action, Action.isOperator]
  · rfl

namespace Machine

/-- A step that is no operator leaves a value on the stack. -/
theorem step_of_not_isOperator {a : Action} (none : a.isOperator = false)
    (stepped : m.step env a = .ok m') :
    m'.converted = m.converted ∧ ∃ v, m'.stack = v :: m.stack := by
  cases a with
  | push o =>
    rcases o with x | name | id
    · obtain rfl := Except.ok.inj stepped
      exact ⟨rfl, _, rfl⟩
    · simp only [step] at stepped
      split at stepped
      · obtain rfl := Except.ok.inj stepped
        exact ⟨rfl, _, rfl⟩
      · cases stepped
    · simp only [step] at stepped
      split at stepped
      · obtain rfl := Except.ok.inj stepped
        exact ⟨rfl, _, rfl⟩
      · cases stepped
  | assign => cases stepped
  | _ => cases none

/-- Steps that are no operators leave the values below them where they are. -/
theorem run_of_not_isOperator (none : ∀ s ∈ steps, s.action.isOperator = false)
    (ran : run env m steps = .ok m') :
    m'.converted = m.converted ∧ ∃ pushed, m'.stack = pushed ++ m.stack := by
  induction steps generalizing m with
  | nil =>
    obtain rfl := Except.ok.inj ran
    exact ⟨rfl, [], rfl⟩
  | cons s steps ih =>
    obtain ⟨here, later⟩ := List.forall_mem_cons.1 none
    obtain ⟨next, stepped, ran⟩ := bind_eq_ok ran
    obtain ⟨flag, pushed, stack⟩ := ih later ran
    obtain ⟨same, v, grown⟩ := step_of_not_isOperator here stepped
    exact ⟨flag.trans same, pushed ++ [v], by rw [stack, grown, List.append_assoc]; rfl⟩

theorem step_convert {unit : Option PhysicalUnit} (stepped : m.step env (.convert unit) = .ok m') :
    m'.converted = true ∧ ∃ v w rest, m.stack = v :: rest ∧ m'.stack = w :: rest ∧
      v.map (·.convert unit) = .ok w := by
  obtain ⟨top, mapped, done⟩ := bind_eq_ok stepped
  obtain rfl := Except.ok.inj done
  unfold mapTop at mapped
  split at mapped
  · exact nomatch mapped
  · next v rest stack =>
    obtain ⟨w, converted, done⟩ := bind_eq_ok mapped
    obtain rfl := Except.ok.inj done
    exact ⟨rfl, v, w, rest, stack, rfl, converted⟩

end Machine

/-- The result of a line that ends with a conversion is the one that has been converted: nothing can
be left on the stack beside it. -/
theorem Outcome.result_of_lastOperator? {o : Outcome} {unit : Option PhysicalUnit}
    (evaluated : ofSteps env steps = .ok (some o))
    (last : lastOperator? steps = some (.convert unit)) :
    o.converted = true ∧ ∃ v : Value, v.map (·.convert unit) = .ok o.result := by
  have ran := run_eq_of_ofSteps evaluated
  rw [← lastOperator?_calculation] at last
  obtain ⟨front, s, back, whole, action, none⟩ := exists_eq_of_lastOperator? last
  rw [whole, Machine.run_append] at ran
  obtain ⟨m, -, ran⟩ := bind_eq_ok ran
  obtain ⟨m', stepped, ran⟩ := bind_eq_ok ran
  rw [action] at stepped
  obtain ⟨flag, v, w, rest, -, stack, converted⟩ := Machine.step_convert stepped
  obtain ⟨same, pushed, single⟩ := Machine.run_of_not_isOperator none ran
  rw [stack] at single
  dsimp only at same single
  obtain rfl : o.result = w := by
    rcases pushed with _ | ⟨x, pushed⟩
    · exact (List.cons.inj single).1
    · simp at single
  exact ⟨same.trans flag, v, converted⟩

/-! ### Converted values -/

theorem Quantity.unit_of_convert {x y : Quantity} (converted : x.convert (some u) = .ok y) :
    y.unit = some u := by
  obtain ⟨factor, -, converted⟩ := bind_eq_ok converted
  obtain ⟨value, -, done⟩ := bind_eq_ok converted
  obtain rfl := Except.ok.inj done
  rfl

theorem Value.unit_of_convert (converted : v.map (·.convert (some u)) = .ok w) :
    ∀ q ∈ w.cells, q.unit = some u := by
  cases v with
  | number x =>
    obtain ⟨y, done, rfl⟩ := map_eq_ok converted
    exact List.forall_mem_singleton.2 (Quantity.unit_of_convert done)
  | matrix m =>
    obtain ⟨n, mapped, rfl⟩ := map_eq_ok converted
    obtain ⟨cells, traversed, done⟩ := bind_eq_ok mapped
    obtain rfl := Except.ok.inj done
    have each : ∀ x ∈ m.cells,
        Yields (·.unit = some u) (fun _ => True) (x.convert (some u)) := fun x _ =>
      .of_forall_ok fun y => Quantity.unit_of_convert
    exact (QuantityMatrix.traverse_yields each).ok traversed

/-! ### Texts in a unit -/

/-- The text is a numeral of the quantity and, behind a space, the unit, if that has a text. -/
def Quantity.IsWrittenIn (base : Numeral.Base) (places : Int) (u : PhysicalUnit) (q : Quantity)
    (t : Text) : Prop :=
  ∃ digits, Displayed.numeral base places q.value = .ok digits ∧ ' ' ∉ digits ∧
    t = digits ++ if u.text = [] then [] else ' ' :: u.text

/-- Whether a value that is converted to the unit is shown in it. The cells of a matrix are not if a
derived unit can take the place of a compound one. -/
def PhysicalUnit.IsKeptBy (u : PhysicalUnit) : Value → Prop
  | .number _ => True
  | .matrix _ => u.symbols.length ≤ 1 ∨ u.derived? = none

instance (u : PhysicalUnit) : DecidablePred u.IsKeptBy
  | .number _ => inferInstanceAs (Decidable True)
  | .matrix _ => inferInstanceAs (Decidable (_ ∨ _))

theorem PhysicalUnit.exists_signal_of_conversionFactor {source target : Option PhysicalUnit}
    {fault : ConversionFault} (same : dimensionsOf source = dimensionsOf target)
    (failed : conversionFactor source target = .error fault) : ∃ s, fault = .signal s := by
  rw [conversionFactor, if_neg (Decidable.not_not.2 same)] at failed
  obtain ⟨s, -, rfl⟩ := mapError_eq_error failed
  exact ⟨s, rfl⟩

namespace Displayed

variable {base : Numeral.Base} {places : Int} {converted keeps : Bool} {t : Text}
  {shown : Displayed}

/-- The number of a value, or each cell of it, is shown in the unit. -/
def ShowsIn (base : Numeral.Base) (places : Int) (u : PhysicalUnit) (shown : Displayed) :
    Value → Prop
  | .number q => shown.cells = none ∧ q.IsWrittenIn base places u shown.text
  | .matrix m => ∃ texts, shown.cells = some texts ∧
      List.Forall₂ (List.Forall₂ (Quantity.IsWrittenIn base places u)) m.rowCells texts

theorem shownAs_eq_self (unit : q.unit = some u)
    (kept : keeps = true ∨ u.symbols.length ≤ 1 ∨ u.derived? = none) :
    shownAs keeps q = .ok q := by
  unfold shownAs inDerivedUnit
  rw [unit]
  dsimp only
  rcases kept with rfl | short | none
  · rfl
  · rw [if_pos short, ite_self]
  · rw [none, ite_self, ite_self]

theorem exists_isWrittenIn_of_number (displayed : number base keeps places q = .ok t) :
    ∃ r, shownAs keeps q = .ok r ∧ ∀ w, r.unit = some w → r.IsWrittenIn base places w t := by
  rw [number_eq] at displayed
  obtain ⟨r, kept, displayed⟩ := bind_eq_ok displayed
  obtain ⟨digits, written, displayed⟩ := bind_eq_ok displayed
  obtain ⟨suffix, ended, rfl⟩ := map_eq_ok displayed
  refine ⟨r, mapError_eq_ok kept, fun w unit => ?_⟩
  rw [unit, unitSuffix] at ended
  split at ended
  · obtain rfl := Except.ok.inj ended
    exact ⟨digits, written, space_not_mem_numeral written, by simp⟩
  · exact nomatch ended

theorem isWrittenIn_of_number (unit : q.unit = some u) (kept : shownAs keeps q = .ok q)
    (displayed : number base keeps places q = .ok t) : q.IsWrittenIn base places u t := by
  obtain ⟨r, shown, written⟩ := exists_isWrittenIn_of_number displayed
  obtain rfl := Except.ok.inj (kept.symm.trans shown)
  exact written u unit

theorem exists_number (unit : q.unit = some u) (kept : shownAs keeps q = .ok q)
    (writable : u.IsWritable) (digits : ∃ digits, numeral base places q.value = .ok digits) :
    ∃ t, number base keeps places q = .ok t := by
  obtain ⟨digits, written⟩ := digits
  rw [number_eq, kept]
  change ∃ t, (numeral base places q.value >>= fun digits => _ <$> unitSuffix q.unit) = .ok t
  rw [written, unit, unitSuffix, if_pos writable]
  exact ⟨_, rfl⟩

/-- A quantity whose compound unit gives way to a derived one is converted to that. -/
theorem convert_of_shownAs {d : PhysicalUnit} {r : Quantity} (unit : q.unit = some u)
    (compound : 1 < u.symbols.length) (derived : u.derived? = some d)
    (rescaled : shownAs false q = .ok r) : q.convert (some d) = .ok r := by
  have same : PhysicalUnit.dimensionsOf (some u) = PhysicalUnit.dimensionsOf (some d) :=
    (PhysicalUnit.derived?_spec derived).1.symm
  change inDerivedUnit q = .ok r at rescaled
  rw [inDerivedUnit, unit] at rescaled
  dsimp only at rescaled
  rw [if_neg (Nat.not_le.2 compound), derived] at rescaled
  dsimp only at rescaled
  rw [Quantity.convert, unit]
  cases converts : PhysicalUnit.conversionFactor (some u) (some d) with
  | error fault =>
    obtain ⟨s, rfl⟩ := PhysicalUnit.exists_signal_of_conversionFactor same converts
    rw [converts] at rescaled
    exact nomatch rescaled
  | ok factor =>
    rw [converts] at rescaled
    obtain ⟨value, product, done⟩ := bind_eq_ok rescaled
    obtain rfl := Except.ok.inj done
    change (Quantity.lift (q.value.mul workingPrecision factor) >>= _) = _
    rw [product]
    rfl

/-- Where all quantities of a value have one unit that is kept, all are shown in it. -/
theorem showsIn_of_ofValue (unit : ∀ q ∈ v.cells, q.unit = some u) (kept : u.IsKeptBy v)
    (displayed : ofValue base true places v = .ok shown) : shown.ShowsIn base places u v := by
  cases v with
  | number q =>
    obtain ⟨text, written, done⟩ := bind_eq_ok displayed
    obtain rfl := Except.ok.inj done
    have own := List.forall_mem_singleton.1 unit
    exact ⟨rfl, isWrittenIn_of_number own (shownAs_eq_self own (.inl rfl)) written⟩
  | matrix m =>
    obtain ⟨texts, written, done⟩ := bind_eq_ok displayed
    obtain rfl := Except.ok.inj done
    have each : ∀ q ∈ m.cells, ∀ t, number base false places q = .ok t →
        q.IsWrittenIn base places u t := fun q part t =>
      isWrittenIn_of_number (unit q part) (shownAs_eq_self (unit q part) (.inr kept))
    exact ⟨texts, rfl, forall₂_of_grid each written⟩

/-- The cells of a matrix in a compound unit are converted to a derived one, if there is one, and
shown in that. -/
theorem cells_of_derived? {m : QuantityMatrix} {d : PhysicalUnit}
    (unit : ∀ q ∈ m.cells, q.unit = some u) (compound : 1 < u.symbols.length)
    (derived : u.derived? = some d)
    (displayed : ofValue base converted places (.matrix m) = .ok shown) :
    ∃ texts, shown.cells = some texts ∧ List.Forall₂ (List.Forall₂ fun q t =>
      ∃ r : Quantity, q.convert (some d) = .ok r ∧ r.IsWrittenIn base places d t)
        m.rowCells texts := by
  obtain ⟨texts, written, done⟩ := bind_eq_ok displayed
  obtain rfl := Except.ok.inj done
  refine ⟨texts, rfl, forall₂_of_grid (fun q part t displayed => ?_) written⟩
  obtain ⟨r, rescaled, written⟩ := exists_isWrittenIn_of_number displayed
  have done := convert_of_shownAs (unit q part) compound derived rescaled
  exact ⟨r, done, written d (Quantity.unit_of_convert done)⟩

/-- A value in a unit that is kept and can be written is shown if its numbers have numerals. -/
theorem exists_ofValue (unit : ∀ q ∈ v.cells, q.unit = some u) (kept : u.IsKeptBy v)
    (writable : u.IsWritable)
    (digits : ∀ q ∈ v.cells, ∃ digits, numeral base places q.value = .ok digits) :
    ∃ shown, ofValue base true places v = .ok shown := by
  have each : ∀ q ∈ v.cells, ∀ keeps, shownAs keeps q ∈ quantities true v →
      SucceedsIff True (fun _ => False) (number base keeps places q) := by
    intro q mem keeps part
    have own : shownAs keeps q = .ok q := by
      cases v with
      | number x =>
        obtain rfl := List.mem_singleton.1 mem
        exact List.mem_singleton.1 part
      | matrix m => exact shownAs_eq_self (unit q mem) (.inr kept)
    exact .inl ⟨trivial, exists_number (unit q mem) own writable (digits q mem)⟩
  exact (ofValue_succeedsIff_of_number (p := fun _ => True) each).exists_ok_iff.2
    fun _ _ => trivial

end Displayed

/-! ### Lines that end with a conversion -/

/-- All quantities in the result of a line that ends with a conversion have the unit that is asked
for. -/
theorem Line.unit_of_lastOperator? {line : Text} {names : List KnownName} {tokens : List Token}
    {o : Outcome} (evaluated : evaluate env names line = .ok (tokens, some o))
    (last : lastOperator? (Postfix.ofTokens tokens) = some (.convert (some u))) :
    o.converted = true ∧ ∀ q ∈ o.result.cells, q.unit = some u := by
  obtain ⟨scanned, -, evaluated⟩ := bind_eq_ok evaluated
  obtain ⟨outcome, calculated, done⟩ := bind_eq_ok evaluated
  obtain ⟨rfl, rfl⟩ := Prod.mk.inj (Except.ok.inj done)
  obtain ⟨flag, v, converted⟩ := Outcome.result_of_lastOperator? (mapError_eq_ok calculated) last
  exact ⟨flag, Value.unit_of_convert converted⟩

/-- The result of a line that ends with a conversion is shown in the unit that is asked for, if this
is kept; and it is shown where its numbers have numerals. -/
theorem Line.display_of_lastOperator? {line : Text} {names : List KnownName} {tokens : List Token}
    {o : Outcome} (evaluated : evaluate env names line = .ok (tokens, some o))
    (last : lastOperator? (Postfix.ofTokens tokens) = some (.convert (some u)))
    (kept : u.IsKeptBy o.result) (base : Numeral.Base) (places : Int) :
    (u.IsWritable →
        (∀ q ∈ o.result.cells, ∃ digits, Displayed.numeral base places q.value = .ok digits) →
        ∃ shown, display base places o = .ok shown) ∧
      ∀ shown, display base places o = .ok shown → shown.ShowsIn base places u o.result := by
  obtain ⟨flag, unit⟩ := unit_of_lastOperator? evaluated last
  rw [display, flag]
  refine ⟨fun writable digits => ?_, fun shown displayed => ?_⟩
  · obtain ⟨shown, displayed⟩ := Displayed.exists_ofValue unit kept writable digits
    exact ⟨shown, congrArg (·.mapError LineFault.display) displayed⟩
  · exact Displayed.showsIn_of_ofValue unit kept (mapError_eq_ok displayed)

/-- In a compound unit with a derived one, the cells of a matrix are converted on to the derived
unit, although the line asks for the other. -/
theorem Line.cells_of_derived? {line : Text} {names : List KnownName} {tokens : List Token}
    {o : Outcome} {m : QuantityMatrix} {d : PhysicalUnit}
    (evaluated : evaluate env names line = .ok (tokens, some o))
    (last : lastOperator? (Postfix.ofTokens tokens) = some (.convert (some u)))
    (result : o.result = .matrix m) (compound : 1 < u.symbols.length)
    (derived : u.derived? = some d) {base : Numeral.Base} {places : Int} {shown : Displayed}
    (displayed : display base places o = .ok shown) :
    ∃ texts, shown.cells = some texts ∧ List.Forall₂ (List.Forall₂ fun q t =>
      ∃ r : Quantity, q.convert (some d) = .ok r ∧ r.IsWrittenIn base places d t)
        m.rowCells texts := by
  have unit := (unit_of_lastOperator? evaluated last).2
  rw [result] at unit
  rw [display, result] at displayed
  exact Displayed.cells_of_derived? unit compound derived (mapError_eq_ok displayed)

/-- All along a pass, results of lines that end with a conversion are shown in the unit that is
asked for, if this is kept. -/
theorem Pass.showsIn_of_lastOperator? {places : Int} {rows : List Row} {p : Pass}
    (passed : ofRows places rows = .ok p) {r : Nat} {row : Row} {line : LineResult}
    (at_r : rows[r]? = some row) (found : p.lines[r]? = some line) (result : line.result = some v)
    (last : lastOperator? (Postfix.ofTokens line.tokens) = some (.convert (some u)))
    (kept : u.IsKeptBy v) : line.shown.ShowsIn row.base places u v := by
  obtain ⟨s, next, evaluates⟩ := exists_evaluates passed at_r found result
  cases evaluates with
  | textLine | withoutResult => exact nomatch result
  | withResult kind calculated recorded displayed =>
    obtain rfl := Option.some.inj result
    exact (Line.display_of_lastOperator? calculated last kept row.base places).2 _ displayed

/-- In every base and to any number of places, the result of a line whose last operator is a
conversion is shown in the unit that it is converted to, if it is a number, or a matrix in a unit
that no derived one takes the place of; so is that of each row of a pass. -/
theorem Line.shows_requested_unit (u : PhysicalUnit) :
    (∀ env names line tokens o, evaluate env names line = .ok (tokens, some o) →
      lastOperator? (Postfix.ofTokens tokens) = some (.convert (some u)) →
      u.IsKeptBy o.result → ∀ base places,
        (u.IsWritable →
            (∀ q ∈ o.result.cells, ∃ digits, Displayed.numeral base places q.value = .ok digits) →
            ∃ shown, display base places o = .ok shown) ∧
          ∀ shown, display base places o = .ok shown → shown.ShowsIn base places u o.result) ∧
      ∀ places rows p, Pass.ofRows places rows = .ok p →
        ∀ (r : Nat) (row : Row) (line : LineResult) (v : Value), rows[r]? = some row →
          p.lines[r]? = some line → line.result = some v →
          lastOperator? (Postfix.ofTokens line.tokens) = some (.convert (some u)) →
          u.IsKeptBy v → line.shown.ShowsIn row.base places u v := by
  constructor
  · intro env names line tokens o evaluated last kept base places
    exact display_of_lastOperator? evaluated last kept base places
  · intro places rows p passed r row line v at_r found result last kept
    exact Pass.showsIn_of_lastOperator? passed at_r found result last kept

/-- A force in units of mass, length and time, in a row of a pass, and two lengths in metres, in a
line in base sixteen. -/
theorem Line.shows_requested_unit_force :
    (∃ u p line v, Pass.ofRows 4 [⟨"5 N to kg*m/s^2".toList, 0, .decimal⟩] = .ok p ∧
        p.lines[0]? = some line ∧ line.result = some v ∧ u.text = "kg*m/s^2".toList ∧
        line.shown.text = "5 kg*m/s^2".toList ∧ line.shown.ShowsIn .decimal 4 u v) ∧
      ∃ u tokens o shown, evaluate ⟨[], []⟩ [] "[1, 2] km to m".toList = .ok (tokens, some o) ∧
        u.text = ['m'] ∧ display .hexadecimal 4 o = .ok shown ∧
        shown.cells = some [["3E8 m".toList, "7D0 m".toList]] ∧
        shown.ShowsIn .hexadecimal 4 u o.result := by
  constructor
  · obtain ⟨u, -, text, p, passed, line, found, v, result, last, kept, shown⟩ :
        ∃ u, PhysicalUnit.parse "kg*m/s^2".toList = .ok u ∧ u.text = "kg*m/s^2".toList ∧
          ∃ p, Pass.ofRows 4 [⟨"5 N to kg*m/s^2".toList, 0, .decimal⟩] = .ok p ∧
            ∃ line ∈ p.lines[0]?, ∃ v ∈ line.result,
              lastOperator? (Postfix.ofTokens line.tokens) = some (.convert (some u)) ∧
              u.IsKeptBy v ∧ line.shown.text = "5 kg*m/s^2".toList := by decide +kernel
    have requested := (Line.shows_requested_unit u).2 4 _ p passed
    exact ⟨u, p, line, v, passed, found, result, text, shown,
      requested 0 _ line v rfl found result last kept⟩
  · obtain ⟨u, -, text, ⟨tokens, outcome⟩, evaluated, o, rfl, last, kept, shown, displayed, cells⟩ :
        ∃ u, PhysicalUnit.parse ['m'] = .ok u ∧ u.text = ['m'] ∧
          ∃ r, evaluate ⟨[], []⟩ [] "[1, 2] km to m".toList = .ok r ∧ ∃ o ∈ r.2,
            lastOperator? (Postfix.ofTokens r.1) = some (.convert (some u)) ∧
            u.IsKeptBy o.result ∧ ∃ shown, display .hexadecimal 4 o = .ok shown ∧
              decide (shown.cells = some [["3E8 m".toList, "7D0 m".toList]]) = true := by
      decide +kernel
    have requested := (Line.shows_requested_unit u).1 _ _ _ tokens o evaluated last kept
    exact ⟨u, tokens, o, shown, evaluated, text, displayed, of_decide_eq_true cells,
      (requested .hexadecimal 4).2 shown displayed⟩

/-- Not every unit that is asked for is shown: two forces in units of mass, length and time are
shown in newtons. -/
theorem Line.not_forall_shows_requested_unit :
    ¬ ∀ env names line tokens o (u : PhysicalUnit), evaluate env names line = .ok (tokens, some o) →
      lastOperator? (Postfix.ofTokens tokens) = some (.convert (some u)) →
      ∀ base places shown, display base places o = .ok shown →
        shown.ShowsIn base places u o.result := by
  intro always
  obtain ⟨u, -, text, ⟨tokens, outcome⟩, evaluated, o, rfl, last, shown, displayed, cells⟩ :
      ∃ u, PhysicalUnit.parse "kg*m/s^2".toList = .ok u ∧ u.text = "kg*m/s^2".toList ∧
        ∃ r, evaluate ⟨[], []⟩ [] "[1, 2] N to kg*m/s^2".toList = .ok r ∧ ∃ o ∈ r.2,
          lastOperator? (Postfix.ofTokens r.1) = some (.convert (some u)) ∧
          ∃ shown, display .decimal 4 o = .ok shown ∧
            decide (shown.cells = some [["1 N".toList, "2 N".toList]]) = true := by
    decide +kernel
  have requested := always _ _ _ tokens o u evaluated last .decimal 4 shown displayed
  have newtons : shown.cells = some [["1 N".toList, "2 N".toList]] := of_decide_eq_true cells
  cases result : o.result with
  | number q =>
    rw [result] at requested
    exact nomatch requested.1.symm.trans newtons
  | matrix m =>
    rw [result] at requested
    obtain ⟨texts, same, rows⟩ := requested
    obtain rfl := Option.some.inj (newtons.symm.trans same)
    generalize m.rowCells = grid at rows
    rcases rows with _ | ⟨_ | ⟨⟨digits, -, -, written⟩, -⟩, -⟩
    rw [text, if_neg (by decide)] at written
    have length := congrArg List.length written
    rw [List.length_append] at length
    exact absurd (Nat.le_of_add_left_le length.ge) (by decide)

end CalcSheet
