/-!
# Bindings

Keys with their values, in the order in which the keys were first bound. Binding a key again
replaces its value and keeps its place.
-/
namespace CalcSheet.Bindings

/-- Bind a key to a value: in its old place, or else in last place. -/
def bind [DecidableEq κ] (key : κ) (value : α) : List (κ × α) → List (κ × α)
  | [] => [(key, value)]
  | (k, v) :: rest => if k = key then (key, value) :: rest else (k, v) :: bind key value rest

/-- The bindings of pairs that may repeat keys: the last value of each key, in its first place. -/
def ofPairs [DecidableEq κ] (pairs : List (κ × α)) : List (κ × α) :=
  pairs.foldl (fun bindings (key, value) => bind key value bindings) []

@[simp] theorem lookup_bind_self [DecidableEq κ] [BEq κ] [LawfulBEq κ] (key : κ) (value : α)
    (xs : List (κ × α)) : (bind key value xs).lookup key = some value := by
  induction xs with
  | nil => simp [bind]
  | cons x xs ih =>
    obtain ⟨k, v⟩ := x
    by_cases h : k = key
    · simp [bind, h]
    · have : (key == k) = false := by simpa using Ne.symm h
      simp [bind, h, List.lookup_cons, this, ih]

theorem lookup_bind_of_ne [DecidableEq κ] [BEq κ] [LawfulBEq κ] {key other : κ} (value : α)
    (xs : List (κ × α)) (h : other ≠ key) : (bind key value xs).lookup other = xs.lookup other := by
  have : (other == key) = false := by simpa using h
  induction xs with
  | nil => simp [bind, List.lookup_cons, this]
  | cons x xs ih =>
    obtain ⟨k, v⟩ := x
    by_cases hk : k = key
    · simp [bind, hk, List.lookup_cons, this]
    · simp [bind, hk, List.lookup_cons, ih]

theorem mem_of_mem_bind [DecidableEq κ] {key : κ} {value : α} {x : κ × α} {xs : List (κ × α)}
    (h : x ∈ bind key value xs) : x = (key, value) ∨ x ∈ xs := by
  induction xs with
  | nil => exact .inl (List.mem_singleton.1 h)
  | cons y xs ih =>
    obtain ⟨k, v⟩ := y
    unfold bind at h
    split at h
    · rcases List.mem_cons.1 h with rfl | h
      · exact .inl rfl
      · exact .inr (List.mem_cons_of_mem _ h)
    · rcases List.mem_cons.1 h with rfl | h
      · exact .inr List.mem_cons_self
      · exact (ih h).imp_right (List.mem_cons_of_mem _)

/-- Binding changes no place of a key; a new key comes last. -/
theorem keys_bind [DecidableEq κ] (key : κ) (value : α) (xs : List (κ × α)) :
    (bind key value xs).map Prod.fst
      = if key ∈ xs.map Prod.fst then xs.map Prod.fst else xs.map Prod.fst ++ [key] := by
  induction xs with
  | nil => simp [bind]
  | cons x xs ih =>
    obtain ⟨k, v⟩ := x
    by_cases h : k = key
    · simp [bind, h]
    · simp only [bind, h, ↓reduceIte, List.map_cons, ih, List.mem_cons, Ne.symm h, false_or]
      split <;> simp

end CalcSheet.Bindings
