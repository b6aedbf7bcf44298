import CalcSheet.Proofs.Bindings
import CalcSheet.Unit.Basic

/-!
# Symbols with exponents

A list of symbols stands for the finite map from the symbols to their exponents. Products add the
exponents, and a symbol whose exponent becomes zero is dropped.
-/
namespace CalcSheet.PhysicalUnit

/-- The exponent of a symbol; those that are not listed have exponent zero. -/
def exponentOf (s : Text) (symbols : List (Text × Int)) : Int := (symbols.lookup s).getD 0

/-- Each symbol is listed once, and none with exponent zero. -/
structure IsReduced (symbols : List (Text × Int)) : Prop where
  nodup : (symbols.map Prod.fst).Nodup
  ne_zero : ∀ x ∈ symbols, x.2 ≠ 0

variable {s t : Text} {e n sign : Int} {left right symbols : List (Text × Int)}

@[simp] theorem exponentOf_nil (s : Text) : exponentOf s [] = 0 := rfl

theorem exponentOf_cons (s : Text) (x : Text × Int) (rest : List (Text × Int)) :
    exponentOf s (x :: rest) = if s = x.1 then x.2 else exponentOf s rest := by
  obtain ⟨t, e⟩ := x
  by_cases same : s = t
  · simp [exponentOf, same]
  · have other : (s == t) = false := by simpa using same
    simp [exponentOf, List.lookup_cons, other, same]

theorem exponentOf_singleton (s t : Text) (e : Int) :
    exponentOf s [(t, e)] = if s = t then e else 0 := exponentOf_cons s (t, e) []

theorem exponentOf_of_not_mem (absent : s ∉ symbols.map Prod.fst) : exponentOf s symbols = 0 := by
  have missing : symbols.lookup s = none := by
    rw [← Option.not_isSome_iff_eq_none, ← Bindings.mem_keys_iff]
    exact absent
  rw [exponentOf, missing, Option.getD_none]

/-- What is listed are the exponents that are not zero. -/
theorem IsReduced.mem_iff (h : IsReduced symbols) :
    (s, e) ∈ symbols ↔ e = exponentOf s symbols ∧ e ≠ 0 := by
  rw [← Bindings.lookup_eq_some_iff h.nodup, exponentOf]
  constructor
  · intro found
    rw [found]
    exact ⟨rfl, h.ne_zero (s, e) ((Bindings.lookup_eq_some_iff h.nodup).1 found)⟩
  · rintro ⟨rfl, nonzero⟩
    cases found : symbols.lookup s with
    | none => simp [found] at nonzero
    | some e => rfl

theorem isReduced_nil : IsReduced [] := ⟨List.nodup_nil, by simp⟩

theorem isReduced_singleton (s : Text) (nonzero : e ≠ 0) : IsReduced [(s, e)] :=
  ⟨List.nodup_singleton s, List.forall_mem_singleton.2 nonzero⟩

/-- To add to an exponent is to bind the symbol to the sum. -/
theorem addExponent_eq_bind (t : Text) (e : Int) (symbols : List (Text × Int)) :
    addExponent t e symbols = Bindings.bind t (exponentOf t symbols + e) symbols := by
  induction symbols with
  | nil => rw [addExponent, Bindings.bind, exponentOf_nil, Int.zero_add]
  | cons x rest ih =>
    obtain ⟨u, d⟩ := x
    rw [addExponent, Bindings.bind, exponentOf_cons]
    by_cases here : u = t
    · rw [if_pos here, if_pos here, if_pos here.symm, here]
    · rw [if_neg here, if_neg here, if_neg (Ne.symm here), ih]

theorem exponentOf_addExponent (s t : Text) (e : Int) (symbols : List (Text × Int)) :
    exponentOf s (addExponent t e symbols) = exponentOf s symbols + if s = t then e else 0 := by
  rw [addExponent_eq_bind, exponentOf]
  by_cases same : s = t
  · rw [same, Bindings.lookup_bind_self, if_pos rfl, Option.getD_some]
  · rw [Bindings.lookup_bind_of_ne _ _ same, if_neg same, Int.add_zero, exponentOf]

theorem addExponent_of_not_mem (new : t ∉ symbols.map Prod.fst) (e : Int) :
    addExponent t e symbols = symbols ++ [(t, e)] := by
  rw [addExponent_eq_bind, exponentOf_of_not_mem new, Int.zero_add]
  exact Bindings.bind_of_not_mem new e

theorem nodup_keys_addExponent (h : (symbols.map Prod.fst).Nodup) (t : Text) (e : Int) :
    ((addExponent t e symbols).map Prod.fst).Nodup := by
  rw [addExponent_eq_bind]
  exact Bindings.nodup_keys_bind h t _

/-- The exponents of some symbols, added to those of others one by one. -/
def addAll (sign : Int) (left right : List (Text × Int)) : List (Text × Int) :=
  right.foldl (fun merged (s, e) => addExponent s (sign * e) merged) left

theorem nodup_keys_addAll (h : (left.map Prod.fst).Nodup) (sign : Int)
    (right : List (Text × Int)) : ((addAll sign left right).map Prod.fst).Nodup := by
  induction right generalizing left with
  | nil => exact h
  | cons x rest ih => exact ih (nodup_keys_addExponent h x.1 (sign * x.2))

theorem exponentOf_addAll (h : (right.map Prod.fst).Nodup) (s : Text) (sign : Int)
    (left : List (Text × Int)) :
    exponentOf s (addAll sign left right) = exponentOf s left + sign * exponentOf s right := by
  induction right generalizing left with
  | nil => simp [addAll]
  | cons x rest ih =>
    obtain ⟨t, e⟩ := x
    obtain ⟨new, later⟩ := List.nodup_cons.1 h
    have step := ih later (addExponent t (sign * e) left)
    rw [addAll, List.foldl_cons, ← addAll, step, exponentOf_addExponent, exponentOf_cons]
    by_cases same : s = t
    · subst same
      simp [exponentOf_of_not_mem new]
    · simp [same]

theorem exponentOf_filter (h : (symbols.map Prod.fst).Nodup) (s : Text) :
    exponentOf s (symbols.filter (·.2 ≠ 0)) = exponentOf s symbols := by
  induction symbols with
  | nil => rfl
  | cons x rest ih =>
    obtain ⟨t, e⟩ := x
    obtain ⟨new, later⟩ := List.nodup_cons.1 h
    by_cases zero : e = 0
    · rw [List.filter_cons_of_neg (by simp [zero]), ih later, exponentOf_cons]
      split
      · next same => rw [same, exponentOf_of_not_mem new, zero]
      · rfl
    · rw [List.filter_cons_of_pos (by simpa using zero), exponentOf_cons, exponentOf_cons, ih later]

theorem isReduced_filter (h : (symbols.map Prod.fst).Nodup) :
    IsReduced (symbols.filter (·.2 ≠ 0)) where
  nodup := h.sublist (List.filter_sublist.map Prod.fst)
  ne_zero x mem := by simpa using (List.mem_filter.1 mem).2

theorem mergeSymbols_eq (h : IsReduced left) (right : List (Text × Int)) (sign : Int) :
    mergeSymbols left right sign = (addAll sign left right).filter (·.2 ≠ 0) := by
  rw [mergeSymbols, Bindings.ofPairs_of_nodup h.nodup, addAll]

theorem IsReduced.merge (h : IsReduced left) (right : List (Text × Int)) (sign : Int) :
    IsReduced (mergeSymbols left right sign) := by
  rw [mergeSymbols_eq h]
  exact isReduced_filter (nodup_keys_addAll h.nodup sign right)

/-- A product has the sum of the exponents. -/
theorem exponentOf_mergeSymbols (hl : IsReduced left) (hr : IsReduced right) (s : Text)
    (sign : Int) :
    exponentOf s (mergeSymbols left right sign)
      = exponentOf s left + sign * exponentOf s right := by
  rw [mergeSymbols_eq hl, exponentOf_filter (nodup_keys_addAll hl.nodup sign right),
    exponentOf_addAll hr.nodup]

/-- A new symbol comes last. -/
theorem mergeSymbols_singleton (h : IsReduced left) (new : t ∉ left.map Prod.fst)
    (nonzero : e ≠ 0) : mergeSymbols left [(t, e)] 1 = left ++ [(t, e)] := by
  have added : addAll 1 left [(t, e)] = left ++ [(t, e)] := by
    simp only [addAll, List.foldl_cons, List.foldl_nil, Int.one_mul, addExponent_of_not_mem new]
  rw [mergeSymbols_eq h, added, List.filter_append,
    List.filter_eq_self.2 fun x mem => by simpa using h.ne_zero x mem,
    List.filter_cons_of_pos (by simpa using nonzero), List.filter_nil]

end CalcSheet.PhysicalUnit
