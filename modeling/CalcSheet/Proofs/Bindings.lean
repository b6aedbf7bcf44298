import Mathlib.Data.List.Induction
import Mathlib.Data.List.Nodup
import CalcSheet.Bindings

/-!
# Keys and values

What is bound to the keys of bindings, and what pairs that repeat keys come to.
-/
namespace CalcSheet

namespace Bindings
variable {κ α : Type} {xs ys : List (κ × α)} {k : κ} {v : α}

theorem mem_keys_bind [DecidableEq κ] {key : κ} :
    k ∈ (bind key v xs).map Prod.fst ↔ k = key ∨ k ∈ xs.map Prod.fst := by
  rw [keys_bind]
  split
  · next old => exact ⟨.inr, fun found => found.elim (fun same => same ▸ old) id⟩
  · rw [List.mem_append, List.mem_singleton, or_comm]

theorem nodup_keys_bind [DecidableEq κ] (h : (xs.map Prod.fst).Nodup) (k : κ) (v : α) :
    ((bind k v xs).map Prod.fst).Nodup := by
  rw [keys_bind]
  split
  · exact h
  · next new =>
    exact List.nodup_append.2 ⟨h, List.nodup_singleton k, fun a ha b hb same =>
      new (List.mem_singleton.1 hb ▸ same ▸ ha)⟩

/-- A new key comes last. -/
theorem bind_of_not_mem [DecidableEq κ] (new : k ∉ xs.map Prod.fst) (v : α) :
    bind k v xs = xs ++ [(k, v)] := by
  induction xs with
  | nil => rfl
  | cons y xs ih =>
    obtain ⟨other, absent⟩ := not_or.1 fun mem => new (List.mem_cons.2 mem)
    rw [bind, if_neg (Ne.symm other), ih absent, List.cons_append]

section
variable [BEq κ] [LawfulBEq κ]

theorem mem_keys_iff : k ∈ xs.map Prod.fst ↔ (xs.lookup k).isSome := by
  rw [List.lookup_isSome_iff]
  constructor
  · intro mem
    obtain ⟨x, hx, rfl⟩ := List.mem_map.1 mem
    exact ⟨x, hx, beq_self_eq_true _⟩
  · rintro ⟨x, hx, same⟩
    exact List.mem_map.2 ⟨x, hx, (eq_of_beq same).symm⟩

theorem lookup_eq_some_iff (h : (xs.map Prod.fst).Nodup) : xs.lookup k = some v ↔ (k, v) ∈ xs := by
  induction xs with
  | nil => simp
  | cons x xs ih =>
    obtain ⟨k', v'⟩ := x
    obtain ⟨new, rest⟩ := List.nodup_cons.1 h
    by_cases same : k = k'
    · subst same
      have absent : (k, v) ∉ xs := fun mem => new (List.mem_map.2 ⟨_, mem, rfl⟩)
      simp [absent, eq_comm]
    · have other : (k == k') = false := by simpa using same
      simp [List.lookup_cons, other, same, ih rest]

/-- Bindings with the same values are the same but for their order. -/
theorem perm_of_lookup_eq (h : (xs.map Prod.fst).Nodup) (h' : (ys.map Prod.fst).Nodup)
    (same : ∀ k, xs.lookup k = ys.lookup k) : xs.Perm ys := by
  refine (List.perm_ext_iff_of_nodup (.of_map _ h) (.of_map _ h')).2 fun x => ?_
  rw [← lookup_eq_some_iff h, ← lookup_eq_some_iff h', same]

end

variable [DecidableEq κ]

@[simp] theorem ofPairs_concat (xs : List (κ × α)) (x : κ × α) :
    ofPairs (xs ++ [x]) = bind x.1 x.2 (ofPairs xs) := by
  rw [ofPairs, List.foldl_append]
  rfl

/-- Keys stand in the order in which they first come. -/
theorem keys_ofPairs [BEq κ] [LawfulBEq κ] (xs : List (κ × α)) :
    (ofPairs xs).map Prod.fst = (xs.map Prod.fst).eraseDups := by
  induction xs using List.reverseRecOn with
  | nil => rfl
  | append_singleton xs x ih =>
    obtain ⟨k, v⟩ := x
    rw [ofPairs_concat, keys_bind, ih, List.map_append, List.eraseDups_append]
    split
    · next old =>
      have found := List.mem_eraseDups.1 old
      simp [List.removeAll, found]
    · next new =>
      have absent : k ∉ xs.map Prod.fst := fun found => new (List.mem_eraseDups.2 found)
      simp [List.removeAll, absent, List.eraseDups_cons]

/-- Pairs that repeat no key are bindings already. -/
theorem ofPairs_of_nodup {xs : List (κ × α)} (h : (xs.map Prod.fst).Nodup) : ofPairs xs = xs := by
  induction xs using List.reverseRecOn with
  | nil => rfl
  | append_singleton xs x ih =>
    rw [List.map_append, List.nodup_append] at h
    obtain ⟨before, -, apart⟩ := h
    rw [ofPairs_concat, ih before]
    exact bind_of_not_mem (fun mem => apart x.1 mem x.1 (by simp) rfl) x.2

end Bindings
end CalcSheet
