import CalcSheet.Proofs.Decimal.Range
import CalcSheet.Proofs.Text.Numerals
import CalcSheet.Proofs.Unit.Reading

/-!
# Symbols written and read back

The text of a list of symbols is read as the product of their powers. Positive exponents come
first, and otherwise the order stays.
-/
namespace CalcSheet.PhysicalUnit

variable {s : Text} {e : Int} {x : Text × Int} {unit : Text → PhysicalUnit}
  {pairs more below : List (Text × Int)}

/-! ### Powers as terms -/

/-- A symbol with its exponent as a term; exponent one is not written. -/
def powerTerm (s : Text) (e : Int) : Term :=
  ⟨s, if e = 1 then none else some ⟨decide (e < 0), Digits.text 10 e.natAbs⟩⟩

theorem text_powerTerm (s : Text) (e : Int) : (powerTerm s e).text = symbolPower s e := by
  by_cases one : e = 1
  · simp [powerTerm, Term.text, symbolPower, one]
  · by_cases negative : e < 0 <;>
      simp [powerTerm, Term.text, WrittenExponent.text, symbolPower, Digits.signed, one, negative]

theorem value_powerTerm (s : Text) (e : Int) : (powerTerm s e).value = e := by
  by_cases one : e = 1
  · simp [powerTerm, Term.value, one]
  · by_cases negative : e < 0
    · simp [powerTerm, Term.value, WrittenExponent.value, Digits.naturalOf_text, one, negative,
        abs_of_neg negative]
    · simp [powerTerm, Term.value, WrittenExponent.value, Digits.naturalOf_text, one, negative,
        abs_of_nonneg (Int.not_lt.1 negative)]

theorem exponent_powerTerm {written : WrittenExponent}
    (found : written ∈ (powerTerm s e).exponent?) :
    written = ⟨decide (e < 0), Digits.text 10 e.natAbs⟩ := by
  unfold powerTerm at found
  split at found
  · exact nomatch found
  · exact (Option.some.inj found).symm

theorem isReadable_powerTerm (s : Text) (nonzero : e ≠ 0) (writable : Digits.IsWritable e) :
    (powerTerm s e).IsReadable := by
  intro written found
  obtain rfl := exponent_powerTerm found
  rw [Digits.length_text_le_iff (Int.natAbs_ne_zero.2 nonzero)]
  exact Nat.lt_of_lt_of_le (Digits.lt_pow_count _) (Nat.pow_le_pow_right (by decide) writable)

/-- The name is a symbol of name characters, which is that of a unit with this symbol. -/
structure IsSymbolOf (u : PhysicalUnit) (s : Text) : Prop where
  name : ∀ c ∈ s, Text.isNameChar c = true
  find : Catalogue.find s = .ok u
  symbol : u.symbols = [(s, 1)]

theorem IsSymbolOf.isWritten {u : PhysicalUnit} (h : IsSymbolOf u s) (e : Int) :
    (powerTerm s e).IsWritten where
  nonempty := by
    rintro rfl
    have : Catalogue.find [] = .error .unknown := by decide +kernel
    exact nomatch this.symm.trans h.find
  name := h.name
  exponent := by
    intro written found
    obtain rfl := exponent_powerTerm found
    exact ⟨Digits.text_ne_nil 10 _, fun c mem =>
      Digits.isDecimal_of_isDigit (Digits.isDigit_of_mem_text mem)⟩

theorem IsSymbolOf.denotes {u : PhysicalUnit} (h : IsSymbolOf u s) (nonzero : e ≠ 0) (j : Joint) :
    Denotes (j, powerTerm s e) ⟨u, j.sign * e⟩ where
  written := h.isWritten e
  nonzero := by rwa [value_powerTerm]
  find := h.find
  exponent := by rw [value_powerTerm]

/-! ### The chain of a list of symbols -/

/-- The symbols `x :: more` multiplied, and those of `below` divided by. -/
def chainOf (x : Text × Int) (more below : List (Text × Int)) : Chain :=
  ⟨powerTerm x.1 x.2, more.map (fun (s, e) => (.times, powerTerm s e))
    ++ below.map fun (s, e) => (.per, powerTerm s (-e))⟩

theorem joined_cons (separator t : Text) (more : List Text) :
    joined separator (t :: more) = t ++ more.flatMap (separator ++ ·) := by
  induction more generalizing t with
  | nil => simp [joined]
  | cons u more ih =>
    rw [joined, ih, List.flatMap_cons, List.append_assoc]
    · simp
    · simp

theorem text_chainOf (x : Text × Int) (more below : List (Text × Int)) :
    (chainOf x more below).text
      = joined ['*'] ((x :: more).map fun (s, e) => symbolPower s e)
        ++ below.flatMap fun (s, e) => '/' :: symbolPower s (-e) := by
  rw [List.map_cons, joined_cons]
  simp [Chain.text, chainOf, text_powerTerm, List.flatMap_append, List.flatMap_map, Joint.char]

/-- Symbols are rendered as a chain, those with positive exponents first. -/
theorem renderSymbols_eq_text (nonempty : pairs ≠ []) (nonzero : ∀ x ∈ pairs, x.2 ≠ 0) :
    ∃ x more below, renderSymbols pairs = (chainOf x more below).text ∧
      x :: more ++ below = pairs.filter (0 < ·.2) ++ pairs.filter (·.2 < 0) := by
  cases above : pairs.filter (0 < ·.2) with
  | nil =>
    -- Without a numerator every exponent is negative, so none of them is left out.
    obtain ⟨x, more, rfl⟩ := List.exists_cons_of_ne_nil nonempty
    have negative : ∀ y ∈ x :: more, y.2 < 0 := by
      intro y mem
      have := List.filter_eq_nil_iff.1 above y mem
      have := nonzero y mem
      simp only [decide_eq_true_eq] at *
      omega
    refine ⟨x, more, [], ?_, ?_⟩
    · have powers : (x :: more).map (fun (s, e) => s ++ '^' :: Digits.signed e)
          = (x :: more).map fun (s, e) => symbolPower s e := by
        refine List.map_congr_left fun (s, e) mem => ?_
        have := negative (s, e) mem
        exact (if_neg (by omega)).symm
      rw [renderSymbols, above, text_chainOf, ← powers]
      simp
    · rw [List.append_nil, List.nil_append, List.filter_eq_self.2]
      exact fun y mem => by simpa using negative y mem
  | cons x more =>
    refine ⟨x, more, pairs.filter (·.2 < 0), ?_, rfl⟩
    rw [renderSymbols, above, text_chainOf]
    simp

/-- The powers that symbols with exponents stand for. -/
def powersOf (unit : Text → PhysicalUnit) (pairs : List (Text × Int)) : List Power :=
  pairs.map fun (s, e) => ⟨unit s, e⟩

/-- A list of symbols that can be rendered and read back: each once, with an exponent that is not
zero and can be written, and with the unit that it is a symbol of. -/
structure IsRenderable (unit : Text → PhysicalUnit) (pairs : List (Text × Int)) : Prop where
  nodup : (pairs.map Prod.fst).Nodup
  nonzero : ∀ x ∈ pairs, x.2 ≠ 0
  writable : ∀ x ∈ pairs, Digits.IsWritable x.2
  named : ∀ x ∈ pairs, IsSymbolOf (unit x.1) x.1

theorem IsRenderable.standsFor (h : IsRenderable unit (x :: more ++ below)) :
    (chainOf x more below).StandsFor (powersOf unit (x :: more ++ below)) := by
  have times (y : Text × Int) (mem : y ∈ x :: more ++ below) :
      (powerTerm y.1 y.2).IsReadable ∧ Denotes (.times, powerTerm y.1 y.2) ⟨unit y.1, y.2⟩ := by
    have denotes := (h.named y mem).denotes (h.nonzero y mem) .times
    rw [Joint.sign, Int.one_mul] at denotes
    exact ⟨isReadable_powerTerm y.1 (h.nonzero y mem) (h.writable y mem), denotes⟩
  have per (y : Text × Int) (mem : y ∈ x :: more ++ below) :
      (powerTerm y.1 (-y.2)).IsReadable ∧
        Denotes (.per, powerTerm y.1 (-y.2)) ⟨unit y.1, y.2⟩ := by
    have nonzero := Int.neg_ne_zero.2 (h.nonzero y mem)
    have writable : Digits.IsWritable (-y.2) := by
      rw [Digits.IsWritable, Int.natAbs_neg]
      exact h.writable y mem
    have denotes := (h.named y mem).denotes nonzero .per
    rw [Joint.sign, Int.neg_mul_neg, Int.one_mul] at denotes
    exact ⟨isReadable_powerTerm y.1 nonzero writable, denotes⟩
  have mem_below (y : Text × Int) (mem : y ∈ below) : y ∈ x :: more ++ below :=
    List.mem_append_right _ mem
  have mem_more (y : Text × Int) (mem : y ∈ more) : y ∈ x :: more ++ below :=
    List.mem_append_left _ (List.mem_cons_of_mem _ mem)
  constructor
  · intro y mem
    rcases List.mem_cons.1 mem with rfl | mem
    · exact (times x List.mem_cons_self).1
    · rcases List.mem_append.1 mem with mem | mem
      · obtain ⟨z, listed, rfl⟩ := List.mem_map.1 mem
        exact (times z (mem_more z listed)).1
      · obtain ⟨z, listed, rfl⟩ := List.mem_map.1 mem
        exact (per z (mem_below z listed)).1
  · rw [powersOf, List.cons_append, List.map_cons, List.map_append]
    refine .cons (times x List.mem_cons_self).2 (List.rel_append ?_ ?_)
    · rw [List.forall₂_map_left_iff, List.forall₂_map_right_iff, List.forall₂_same]
      exact fun y mem => (times y (mem_more y mem)).2
    · rw [List.forall₂_map_left_iff, List.forall₂_map_right_iff, List.forall₂_same]
      exact fun y mem => (per y (mem_below y mem)).2

theorem IsRenderable.perm (h : IsRenderable unit pairs) {pairs' : List (Text × Int)}
    (same : pairs'.Perm pairs) : IsRenderable unit pairs' where
  nodup := (same.map Prod.fst).nodup_iff.2 h.nodup
  nonzero x mem := h.nonzero x (same.subset mem)
  writable x mem := h.writable x (same.subset mem)
  named x mem := h.named x (same.subset mem)

theorem IsRenderable.sublist (h : IsRenderable unit pairs) {pairs' : List (Text × Int)}
    (part : pairs'.Sublist pairs) : IsRenderable unit pairs' where
  nodup := h.nodup.sublist (part.map Prod.fst)
  nonzero x mem := h.nonzero x (part.subset mem)
  writable x mem := h.writable x (part.subset mem)
  named x mem := h.named x (part.subset mem)

/-- The symbols of a product of powers of different symbols are these symbols. -/
theorem IsRenderable.totalSymbols_eq (h : IsRenderable unit pairs) :
    totalSymbols (powersOf unit pairs) = pairs := by
  induction pairs using List.reverseRecOn with
  | nil => rfl
  | append_singleton pairs x ih =>
    obtain ⟨s, e⟩ := x
    have here : (s, e) ∈ pairs ++ [(s, e)] := by simp
    have front := h.sublist (List.sublist_append_left pairs _)
    have new : s ∉ pairs.map Prod.fst := by
      have := h.nodup
      rw [List.map_append, List.nodup_append] at this
      exact fun mem => this.2.2 s mem s (by simp) rfl
    have single : Power.symbols ⟨unit s, e⟩ = [(s, e)] := by
      simp [Power.symbols, (h.named _ here).symbol, h.nonzero _ here]
    have concat : powersOf unit (pairs ++ [(s, e)]) = powersOf unit pairs ++ [⟨unit s, e⟩] := by
      simp [powersOf]
    rw [concat, totalSymbols_concat, ih front, single]
    exact mergeSymbols_singleton ⟨front.nodup, front.nonzero⟩ new (h.nonzero _ here)

theorem totalDimensions_perm {ps qs : List Power} (h : ps.Perm qs) :
    totalDimensions ps = totalDimensions qs := by
  have comm : RightCommutative Dimensions.add :=
    ⟨fun d e f => by simp [Dimensions.add, Int.add_right_comm]⟩
  exact (h.map _).foldl_eq Dimensions.none

/-- Symbols that are rendered are read back: those with positive exponents and then those with
negative exponents, each in the order in which they were. Reading fails only where the factor cannot
be calculated. -/
theorem parse_renderSymbols (unit : Text → PhysicalUnit) (pairs : List (Text × Int))
    (nonempty : pairs ≠ []) (h : IsRenderable unit pairs) :
    (∃ s, parse (renderSymbols pairs) = .error (.interrupted (.signal s))) ∨
      ∃ u, parse (renderSymbols pairs) = .ok u ∧
        u.symbols = pairs.filter (0 < ·.2) ++ pairs.filter (·.2 < 0) ∧
        u.dimensions = totalDimensions (powersOf unit pairs) := by
  obtain ⟨x, more, below, rendered, order⟩ := renderSymbols_eq_text nonempty h.nonzero
  have negative : pairs.filter (·.2 < 0) = pairs.filter fun x => !decide (0 < x.2) := by
    refine List.filter_congr fun x mem => ?_
    have := h.nonzero x mem
    rw [← decide_not]
    exact decide_eq_decide.2 (by omega)
  have same : (x :: more ++ below).Perm pairs := by
    rw [order, negative]
    exact List.filter_append_perm _ pairs
  have ordered := h.perm same
  have parsed := ordered.standsFor.parse_text
  rw [← rendered] at parsed
  cases calculated : totalFactor (powersOf unit (x :: more ++ below)) with
  | error s =>
    rw [calculated] at parsed
    exact .inl ⟨s, parsed⟩
  | ok y =>
    rw [calculated] at parsed
    refine .inr ⟨_, parsed, ordered.totalSymbols_eq.trans order, ?_⟩
    exact totalDimensions_perm (same.map _)

theorem parse_renderSymbols_acceleration :
    ∃ u, parse (renderSymbols [(['m'], 1), (['s'], -2)]) = .ok u ∧
      u.symbols = [(['m'], 1), (['s'], -2)] := by
  obtain ⟨m, hm, m_symbols, s, hs, s_symbols⟩ :
      ∃ m, Catalogue.find ['m'] = .ok m ∧ m.symbols = [(['m'], 1)] ∧
      ∃ s, Catalogue.find ['s'] = .ok s ∧ s.symbols = [(['s'], 1)] := by decide +kernel
  have named : ∀ x ∈ [((['m'], 1) : Text × Int), (['s'], -2)],
      IsSymbolOf (if x.1 = ['m'] then m else s) x.1 := by
    simp only [List.forall_mem_cons, List.not_mem_nil, false_implies, implies_true, and_true]
    exact ⟨⟨List.forall_mem_singleton.2 rfl, hm, m_symbols⟩,
      ⟨List.forall_mem_singleton.2 rfl, hs, s_symbols⟩⟩
  have calculated : ∃ u, parse (renderSymbols [(['m'], 1), (['s'], -2)]) = .ok u ∧ True := by
    decide +kernel
  rcases parse_renderSymbols (fun t => if t = ['m'] then m else s) _ (by decide)
    ⟨by decide, by decide, by decide, named⟩ with ⟨signal, failed⟩ | ⟨u, parsed, symbols, -⟩
  · obtain ⟨u, parsed, -⟩ := calculated
    exact nomatch failed.symm.trans parsed
  · exact ⟨u, parsed, symbols⟩

/-- An exponent that cannot be written is one that cannot be read. -/
theorem parse_renderSymbols_long {u : PhysicalUnit} (h : IsSymbolOf u s)
    (long : ¬ Digits.IsWritable e) :
    ∃ digits, parse (renderSymbols [(s, e)]) = .error (.interrupted (.longExponent digits)) := by
  have one : e ≠ 1 := by
    rintro rfl
    exact long (by decide)
  have zero : e ≠ 0 := by
    rintro rfl
    exact long (by decide)
  have rendered : renderSymbols [(s, e)] = (powerTerm s e).text := by
    obtain ⟨x, more, below, rendered, order⟩ :=
      renderSymbols_eq_text (List.cons_ne_nil (s, e) []) (List.forall_mem_singleton.2 zero)
    have single : x :: (more ++ below) = [(s, e)] := by
      rw [← List.cons_append, order]
      rcases Int.lt_or_gt_of_ne zero with negative | positive
      · simp [negative, Int.not_lt.2 (Int.le_of_lt negative)]
      · simp [positive, Int.not_lt.2 (Int.le_of_lt positive)]
    obtain ⟨rfl, nothing⟩ := List.cons.inj single
    obtain ⟨rfl, rfl⟩ := List.append_eq_nil_iff.1 nothing
    exact rendered.trans (List.append_nil _)
  have next : Next (powerTerm s e).text [] .times (powerTerm s e) [] :=
    ⟨by simpa using .start, h.isWritten e, (powerTerm s e).stopsBefore_nil⟩
  have digits : Digits.maxLength < (Digits.text 10 e.natAbs).length := by
    have nonzero : e.natAbs ≠ 0 := Int.natAbs_ne_zero.2 zero
    rw [← Nat.not_le, Digits.length_text_le_iff nonzero, Nat.not_lt]
    have count := Nat.lt_of_not_le long
    exact Nat.le_trans (Nat.pow_le_pow_right (by decide) (by omega))
      (Digits.pow_count (Nat.pos_of_ne_zero nonzero)).1
  rw [rendered]
  exact ⟨_, (Offence.longExponent next (if_neg one) digits).parse_eq⟩

/-- Not every list of symbols is read back: `m^10…0` is not, with more digits than can be read. -/
theorem not_forall_rendered :
    ¬ ∀ (unit : Text → PhysicalUnit) (pairs : List (Text × Int)), pairs ≠ [] →
      (pairs.map Prod.fst).Nodup → (∀ x ∈ pairs, x.2 ≠ 0) →
      (∀ x ∈ pairs, IsSymbolOf (unit x.1) x.1) →
      (∃ s, parse (renderSymbols pairs) = .error (.interrupted (.signal s))) ∨
        ∃ u, parse (renderSymbols pairs) = .ok u ∧
          u.symbols = pairs.filter (0 < ·.2) ++ pairs.filter (·.2 < 0) ∧
          u.dimensions = totalDimensions (powersOf unit pairs) := by
  intro all
  obtain ⟨m, found, symbol⟩ : ∃ m, Catalogue.find ['m'] = .ok m ∧ m.symbols = [(['m'], 1)] := by
    decide +kernel
  have metre : IsSymbolOf m ['m'] :=
    ⟨List.forall_mem_singleton.2 rfl, found, symbol⟩
  obtain ⟨digits, failed⟩ :=
    parse_renderSymbols_long metre (Digits.not_isWritable_tenPow (Nat.le_refl _))
  have positive (k : Nat) : ((Digits.tenPow k : Nat) : Int) ≠ 0 :=
    Int.natCast_ne_zero.2 (Nat.ne_of_gt (Nat.pow_pos (by decide)))
  rcases all (fun _ => m) [(['m'], (Digits.tenPow Digits.maxLength : Nat))] (List.cons_ne_nil _ _)
    (List.nodup_singleton _) (List.forall_mem_singleton.2 (positive _))
    (List.forall_mem_singleton.2 metre) with ⟨signal, read⟩ | ⟨u, read, -⟩
  · exact nomatch failed.symm.trans read
  · exact nomatch failed.symm.trans read

end CalcSheet.PhysicalUnit
