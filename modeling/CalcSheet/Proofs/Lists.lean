import Mathlib.Data.List.DropRight

/-!
# Runs in lists

A list that begins with a run of elements of one kind and goes on with none of them, or that ends
with one; and lists that differ in one place.
-/
namespace CalcSheet
variable {α β : Type} {p : α → Bool}

theorem takeWhile_append_of_stop {run rest : List α} (inside : ∀ x ∈ run, p x = true)
    (stop : ∀ x ∈ rest.head?, p x = false) : (run ++ rest).takeWhile p = run := by
  have none : rest.takeWhile p = [] := by
    cases rest with
    | nil => rfl
    | cons x rest => simp [stop x rfl]
  rw [List.takeWhile_append_of_pos inside, none, List.append_nil]

/-- A run does not go over an element of another kind. -/
theorem takeWhile_append_cons {y : α} (stop : p y = false) (xs ys : List α) :
    (xs ++ y :: ys).takeWhile p = xs.takeWhile p := by
  induction xs with
  | nil => simp [stop]
  | cons x xs ih => simp only [List.cons_append, List.takeWhile_cons, ih]

theorem dropWhile_append_of_stop {run rest : List α} (inside : ∀ x ∈ run, p x = true)
    (stop : ∀ x ∈ rest.head?, p x = false) : (run ++ rest).dropWhile p = rest := by
  rw [List.dropWhile_append_of_pos inside]
  cases rest with
  | nil => rfl
  | cons x rest => simp [stop x rfl]

theorem rtakeWhile_append_of_stop {front run : List α} (inside : ∀ x ∈ run, p x = true)
    (stop : ∀ x ∈ front.getLast?, p x = false) : (front ++ run).rtakeWhile p = run := by
  rw [List.rtakeWhile, List.reverse_append, takeWhile_append_of_stop, List.reverse_reverse]
  · exact fun x hx => inside x (List.mem_reverse.1 hx)
  · rwa [List.head?_reverse]

theorem of_mem_head?_dropWhile (p : α → Bool) (xs : List α) :
    ∀ x ∈ (xs.dropWhile p).head?, p x = false := by
  intro x hx
  have := List.head?_dropWhile_not p xs
  simpa [Option.mem_def.1 hx] using this

/-- The pieces between separators are parts of a list, the first of them in front. -/
theorem splitOnP_eq_cons (p : α → Bool) (xs : List α) :
    ∃ first rest, xs.splitOnP p = first :: rest ∧ first <+: xs ∧ ∀ ys ∈ rest, ys <:+: xs := by
  induction xs with
  | nil => exact ⟨[], [], List.splitOnP_nil, List.nil_prefix, List.forall_mem_nil _⟩
  | cons x xs ih =>
    obtain ⟨first, rest, split, begins, parts⟩ := ih
    have later : ∀ ys ∈ rest, ys <:+: x :: xs := fun ys mem => List.infix_cons (parts ys mem)
    rw [List.splitOnP_cons_eq_if_modifyHead, split]
    by_cases separates : p x = true
    · have here : first <:+: x :: xs := List.infix_cons begins.isInfix
      exact ⟨[], first :: rest, if_pos separates, List.nil_prefix,
        List.forall_mem_cons.2 ⟨here, later⟩⟩
    · exact ⟨x :: first, rest, if_neg separates, (List.prefix_cons_inj x).2 begins, later⟩

theorem infix_of_mem_splitOnP {xs ys : List α} (mem : ys ∈ xs.splitOnP p) : ys <:+: xs := by
  obtain ⟨first, rest, split, begins, parts⟩ := splitOnP_eq_cons p xs
  rw [split] at mem
  rcases List.mem_cons.1 mem with rfl | mem
  · exact begins.isInfix
  · exact parts ys mem

/-- Lists that differ in one place have the same images, if there is none there. -/
theorem filterMap_eq_of_getElem?_eq {f : α → Option β} {xs ys : List α} {r : Nat}
    (others : ∀ i, i ≠ r → ys[i]? = xs[i]?) (left : ∀ x ∈ xs[r]?, f x = none)
    (right : ∀ y ∈ ys[r]?, f y = none) : ys.filterMap f = xs.filterMap f := by
  have split (zs : List α) (here : ∀ z ∈ zs[r]?, f z = none) :
      zs.filterMap f = (zs.take r).filterMap f ++ (zs.drop (r + 1)).filterMap f := by
    have single : zs[r]?.toList.filterMap f = [] :=
      List.filterMap_eq_nil_iff.2 fun z mem => here z (Option.mem_toList.1 mem)
    conv_lhs => rw [← List.take_append_drop (r + 1) zs, List.take_add_one]
    rw [List.filterMap_append, List.filterMap_append, single, List.append_nil]
  have above : ys.take r = xs.take r := by
    refine List.ext_getElem? fun i => ?_
    rw [List.getElem?_take, List.getElem?_take]
    split
    · exact others i (by omega)
    · rfl
  have below : ys.drop (r + 1) = xs.drop (r + 1) := by
    refine List.ext_getElem? fun i => ?_
    rw [List.getElem?_drop, List.getElem?_drop]
    exact others (r + 1 + i) (by omega)
  rw [split ys right, split xs left, above, below]

end CalcSheet
