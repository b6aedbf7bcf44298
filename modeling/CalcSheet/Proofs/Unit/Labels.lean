import CalcSheet.Proofs.Unit.Rendering

/-!
# What the text of a unit tells

Symbols are added up by their texts alone. They tell the dimensions of a unit where every symbol has
dimensions of its own, and the text of a unit tells its symbols. Two names with one symbol and
different dimensions are the way in which this breaks.
-/
namespace CalcSheet

namespace Dimensions
variable (d e f : Dimensions) (m n : Int)

theorem add_comm : d.add e = e.add d := by simp [add, Int.add_comm]

theorem add_assoc : (d.add e).add f = d.add (e.add f) := by simp [add, Int.add_assoc]

theorem add_left_comm : d.add (e.add f) = e.add (d.add f) := by simp [add, Int.add_left_comm]

theorem sub_eq_add_scale : d.sub e = d.add (e.scale (-1)) := by
  simp [sub, add, scale, Int.sub_eq_add_neg]

@[simp] theorem scale_one : d.scale 1 = d := by simp [scale]

theorem scale_add : d.scale (m + n) = (d.scale m).add (d.scale n) := by
  simp [add, scale, Int.mul_add]

theorem scale_mul : d.scale (m * n) = (d.scale m).scale n := by simp [scale, Int.mul_assoc]

theorem add_scale : (d.add e).scale n = (d.scale n).add (e.scale n) := by
  simp [add, scale, Int.add_mul]

end Dimensions

theorem Digits.of_mem_signed {n : Int} {c : Char} (mem : c ∈ signed n) :
    c = '-' ∨ c.isDigit = true := by
  unfold signed at mem
  split at mem
  · rcases List.mem_cons.1 mem with minus | mem
    · exact .inl minus
    · exact .inr (isDigit_of_mem_text mem)
  · exact .inr (isDigit_of_mem_text mem)

namespace PhysicalUnit

variable {D : Text → Dimensions} {d e : Dimensions} {s t : Text} {m n sign : Int}
  {left right pairs pairs' : List (Text × Int)} {u w v : PhysicalUnit}

/-! ### Dimensions of symbols -/

/-- The dimensions of symbols with exponents, where the symbols have the dimensions `D`. -/
def dimensionsBy (D : Text → Dimensions) : List (Text × Int) → Dimensions
  | [] => .none
  | (s, n) :: rest => ((D s).scale n).add (dimensionsBy D rest)

theorem dimensionsBy_addExponent (D : Text → Dimensions) (t : Text) (n : Int)
    (pairs : List (Text × Int)) :
    dimensionsBy D (addExponent t n pairs) = ((D t).scale n).add (dimensionsBy D pairs) := by
  induction pairs with
  | nil => rfl
  | cons x rest ih =>
    obtain ⟨s, m⟩ := x
    rw [addExponent]
    split
    · next same =>
      subst same
      rw [dimensionsBy, dimensionsBy, Int.add_comm, Dimensions.scale_add, Dimensions.add_assoc]
    · rw [dimensionsBy, dimensionsBy, ih, Dimensions.add_left_comm]

theorem dimensionsBy_addAll (D : Text → Dimensions) (sign : Int) (left right : List (Text × Int)) :
    dimensionsBy D (addAll sign left right)
      = (dimensionsBy D left).add ((dimensionsBy D right).scale sign) := by
  induction right generalizing left with
  | nil => simp [addAll, dimensionsBy]
  | cons x rest ih =>
    obtain ⟨s, n⟩ := x
    rw [addAll, List.foldl_cons, ← addAll, ih, dimensionsBy_addExponent, dimensionsBy,
      Dimensions.add_scale, Int.mul_comm, Dimensions.scale_mul, Dimensions.add_assoc,
      Dimensions.add_left_comm]

/-- Symbols with exponent zero do not count. -/
theorem dimensionsBy_filter (D : Text → Dimensions) (pairs : List (Text × Int)) :
    dimensionsBy D (pairs.filter (·.2 ≠ 0)) = dimensionsBy D pairs := by
  induction pairs with
  | nil => rfl
  | cons x rest ih =>
    by_cases zero : x.2 = 0
    · rw [List.filter_cons_of_neg (by simpa using zero), ih, dimensionsBy, zero,
        Dimensions.scale_zero, Dimensions.none_add]
    · rw [List.filter_cons_of_pos (by simpa using zero), dimensionsBy, dimensionsBy, ih]

theorem dimensionsBy_map_mul (D : Text → Dimensions) (n : Int) (pairs : List (Text × Int)) :
    dimensionsBy D (pairs.map fun (s, m) => (s, m * n)) = (dimensionsBy D pairs).scale n := by
  induction pairs with
  | nil => simp [dimensionsBy]
  | cons x rest ih =>
    rw [List.map_cons, dimensionsBy, dimensionsBy, ih, Dimensions.scale_mul, Dimensions.add_scale]

/-- A symbol that cannot be taken for one with an exponent, nor for several. -/
structure IsPlain (s : Text) : Prop where
  nonempty : s ≠ []
  free : ∀ c ∈ s, c ≠ '*' ∧ c ≠ '/' ∧ c ≠ '^'

instance (s : Text) : Decidable (IsPlain s) :=
  decidable_of_iff (s ≠ [] ∧ s.all fun c => c ≠ '*' ∧ c ≠ '/' ∧ c ≠ '^')
    ⟨fun ⟨nonempty, free⟩ => ⟨nonempty, by simpa using free⟩,
      fun h => ⟨h.nonempty, by simpa using h.free⟩⟩

/-- Plain symbols, each with its exponent, of which the dimensions `d` are made. -/
structure Describes (D : Text → Dimensions) (pairs : List (Text × Int)) (d : Dimensions) :
    Prop where
  reduced : IsReduced pairs
  plain : ∀ x ∈ pairs, IsPlain x.1
  dimensions : d = dimensionsBy D pairs

theorem describes_nil (D : Text → Dimensions) : Describes D [] .none :=
  ⟨isReduced_nil, List.forall_mem_nil _, rfl⟩

theorem mem_keys_mergeSymbols (hl : IsReduced left) (hr : IsReduced right)
    (mem : (s, n) ∈ mergeSymbols left right sign) :
    s ∈ left.map Prod.fst ∨ s ∈ right.map Prod.fst := by
  obtain ⟨exponent, nonzero⟩ := (hl.merge right sign).mem_iff.1 mem
  rw [exponentOf_mergeSymbols hl hr] at exponent
  by_contra absent
  rw [not_or] at absent
  rw [exponentOf_of_not_mem absent.1, exponentOf_of_not_mem absent.2] at exponent
  exact nonzero (by simpa using exponent)

/-- Symbols are added up as the dimensions are. -/
theorem Describes.merge (hl : Describes D left d) (hr : Describes D right e) (sign : Int) :
    Describes D (mergeSymbols left right sign) (d.add (e.scale sign)) where
  reduced := hl.reduced.merge right sign
  plain := by
    rintro ⟨s, n⟩ mem
    rcases mem_keys_mergeSymbols hl.reduced hr.reduced mem with inside | inside
    · obtain ⟨x, listed, rfl⟩ := List.mem_map.1 inside
      exact hl.plain x listed
    · obtain ⟨x, listed, rfl⟩ := List.mem_map.1 inside
      exact hr.plain x listed
  dimensions := by
    rw [mergeSymbols_eq hl.reduced, dimensionsBy_filter, dimensionsBy_addAll, hl.dimensions,
      hr.dimensions]

/-- Symbols are raised to a power as the dimensions are. -/
theorem Describes.raise (h : Describes D pairs d) (n : Int) :
    Describes D ((pairs.map fun (s, m) => (s, m * n)).filter (·.2 ≠ 0)) (d.scale n) where
  reduced := isReduced_filter (by simpa [Function.comp_def] using h.reduced.nodup)
  plain := by
    intro y mem
    obtain ⟨x, listed, rfl⟩ := List.mem_map.1 (List.mem_filter.1 mem).1
    exact h.plain x listed
  dimensions := by rw [dimensionsBy_filter, dimensionsBy_map_mul, h.dimensions]

/-- The symbols of the unit tell its dimensions. -/
def IsLabelled (D : Text → Dimensions) (u : PhysicalUnit) : Prop :=
  Describes D u.symbols u.dimensions

theorem IsLabelled.mul (hu : u.IsLabelled D) (hw : w.IsLabelled D) (done : u.mul w = .ok v) :
    v.IsLabelled D := by
  obtain ⟨factor, -, done⟩ := bind_eq_ok done
  obtain rfl := Except.ok.inj done
  have merged := Describes.merge hu hw 1
  rwa [Dimensions.scale_one] at merged

theorem IsLabelled.div (hu : u.IsLabelled D) (hw : w.IsLabelled D) (done : u.div w = .ok v) :
    v.IsLabelled D := by
  obtain ⟨factor, -, done⟩ := bind_eq_ok done
  obtain rfl := Except.ok.inj done
  have merged := Describes.merge hu hw (-1)
  rwa [← Dimensions.sub_eq_add_scale] at merged

theorem IsLabelled.pow (hu : u.IsLabelled D) (done : u.pow n = .ok v) : v.IsLabelled D := by
  obtain ⟨factor, -, done⟩ := bind_eq_ok done
  obtain rfl := Except.ok.inj done
  exact Describes.raise hu n

/-! ### Symbols that a text tells -/

theorem symbolPower_eq (s : Text) (n : Int) :
    symbolPower s n = s ++ if n = 1 then [] else '^' :: Digits.signed n := by
  unfold symbolPower
  split <;> simp

/-- A term that stands for a power of a plain symbol. -/
def IsSymbolPower (term : Term) : Prop := ∃ s n, IsPlain s ∧ term = powerTerm s n

theorem IsSymbolPower.free {term : Term} (h : IsSymbolPower term) :
    ∀ c ∈ term.text, c ≠ '*' ∧ c ≠ '/' := by
  obtain ⟨s, n, plain, rfl⟩ := h
  intro c mem
  rw [text_powerTerm, symbolPower_eq] at mem
  rcases List.mem_append.1 mem with mem | mem
  · exact ⟨(plain.free c mem).1, (plain.free c mem).2.1⟩
  · split at mem
    · exact nomatch mem
    · rcases List.mem_cons.1 mem with rfl | mem
      · decide
      rcases Digits.of_mem_signed mem with rfl | digit
      · decide
      · constructor <;> rintro rfl <;> exact absurd digit (by decide)

/-- The first symbol of a chain ends at the first operator. -/
theorem IsSymbolPower.takeWhile_text {c : Chain} (h : IsSymbolPower c.first) :
    c.text.takeWhile (fun c => c ≠ '*' ∧ c ≠ '/') = c.first.text := by
  refine takeWhile_append_of_stop (fun d mem => by simpa using h.free d mem) fun d stop => ?_
  obtain ⟨first, others⟩ := c
  cases others with
  | nil => exact nomatch stop
  | cons x others =>
    obtain ⟨j, term⟩ := x
    obtain rfl := Option.some.inj stop
    cases j <;> rfl

/-- The symbols of a chain with the exponents that they have in the product. -/
def Chain.symbols (c : Chain) : List (Text × Int) :=
  c.terms.map fun (j, t) => (t.name, j.sign * t.value)

end PhysicalUnit
end CalcSheet
