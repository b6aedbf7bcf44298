import Mathlib.Data.List.Forall2

/-!
# Calculations with faults

What a calculation was made of, where it succeeded and where it failed.
-/
namespace CalcSheet
variable {ε ε' α β : Type}

/-- Whether a calculation has a result, and a property holds of it. -/
instance decidableExistsOk (x : Except ε α) (p : α → Prop) [DecidablePred p] :
    Decidable (∃ a, x = .ok a ∧ p a) :=
  match x with
  | .ok a => decidable_of_iff (p a) ⟨fun h => ⟨a, rfl, h⟩, fun ⟨_, same, h⟩ =>
      Except.ok.inj same ▸ h⟩
  | .error _ => .isFalse fun ⟨_, same, _⟩ => nomatch same

/-- Whether a property holds of the result of a calculation, if it has one. -/
instance decidableForallOk (x : Except ε α) (p : α → Prop) [DecidablePred p] :
    Decidable (∀ a, x = .ok a → p a) :=
  match x with
  | .ok a => decidable_of_iff (p a) ⟨fun h _ same => Except.ok.inj same ▸ h, fun h => h a rfl⟩
  | .error _ => .isTrue fun _ absent => nomatch absent

theorem bind_eq_ok {x : Except ε α} {f : α → Except ε β} {b : β} (h : (x >>= f) = .ok b) :
    ∃ a, x = .ok a ∧ f a = .ok b := by
  cases x with
  | error e => exact nomatch h
  | ok a => exact ⟨a, rfl, h⟩

theorem map_eq_ok {x : Except ε α} {f : α → β} {b : β} (h : f <$> x = .ok b) :
    ∃ a, x = .ok a ∧ f a = b := by
  cases x with
  | error e => exact nomatch h
  | ok a => exact ⟨a, rfl, Except.ok.inj h⟩

theorem mapError_eq_ok {x : Except ε α} {f : ε → ε'} {a : α} (h : x.mapError f = .ok a) :
    x = .ok a := by
  cases x with
  | error e => exact nomatch h
  | ok b => exact congrArg _ (Except.ok.inj h)

theorem bind_eq_error {x : Except ε α} {f : α → Except ε β} {e : ε} (h : (x >>= f) = .error e) :
    x = .error e ∨ ∃ a, x = .ok a ∧ f a = .error e := by
  cases x with
  | error e' => exact .inl (congrArg _ (Except.error.inj h))
  | ok a => exact .inr ⟨a, rfl, h⟩

theorem map_eq_error {x : Except ε α} {f : α → β} {e : ε} (h : f <$> x = .error e) :
    x = .error e := by
  cases x with
  | error e' => exact congrArg _ (Except.error.inj h)
  | ok a => exact nomatch h

theorem mapError_eq_error {x : Except ε α} {f : ε → ε'} {e : ε'} (h : x.mapError f = .error e) :
    ∃ e', x = .error e' ∧ f e' = e := by
  cases x with
  | error e' => exact ⟨e', rfl, Except.error.inj h⟩
  | ok a => exact nomatch h

/-- A fault that is not one of the first calculation comes from what follows it. -/
theorem mapError_bind_eq_error {x : Except ε α} {f : ε → ε'} {g : α → Except ε' β} {e : ε'}
    (other : ∀ e', f e' ≠ e) (h : (x.mapError f >>= g) = .error e) :
    ∃ a, x = .ok a ∧ g a = .error e := by
  cases x with
  | error e' => exact absurd (Except.error.inj h) (other e')
  | ok a => exact ⟨a, rfl, h⟩

/-- The result of a calculation has one property, or else its fault another. -/
def Yields (p : α → Prop) (f : ε → Prop) : Except ε α → Prop
  | .ok a => p a
  | .error e => f e

namespace Yields
variable {p : α → Prop} {q : β → Prop} {f f' : ε → Prop} {x : Except ε α}

theorem ok {a : α} (h : Yields p f x) (same : x = .ok a) : p a := by
  rw [same] at h
  exact h

theorem error {e : ε} (h : Yields p f x) (same : x = .error e) : f e := by
  rw [same] at h
  exact h

theorem bind {g : α → Except ε β} (h : Yields p f x) (rest : ∀ a, p a → Yields q f (g a)) :
    Yields q f (x >>= g) := by
  cases x with
  | error e => exact h
  | ok a => exact rest a h

theorem map {g : α → β} (h : Yields p f x) (image : ∀ a, p a → q (g a)) : Yields q f (g <$> x) := by
  cases x with
  | error e => exact h
  | ok a => exact image a h

theorem imp {q : α → Prop} (h : Yields p f x) (result : ∀ a, p a → q a)
    (fault : ∀ e, f e → f' e) : Yields q f' x := by
  cases x with
  | error e => exact fault e h
  | ok a => exact result a h

theorem of_forall_ok (h : ∀ a, x = .ok a → p a) : Yields p (fun _ => True) x := by
  cases x with
  | error e => trivial
  | ok a => exact h a rfl

/-- Where nothing needs to be known of a calculation, only what follows it counts. -/
theorem bind_any {g : α → Except ε β} (rest : ∀ a, Yields q (fun _ => True) (g a)) :
    Yields q (fun _ => True) (x >>= g) :=
  (of_forall_ok (p := fun _ => True) fun _ _ => trivial).bind fun a _ => rest a

end Yields

/-- A calculation succeeds just if a condition holds, and otherwise ends with one of some faults. -/
def SucceedsIff (p : Prop) (f : ε → Prop) (x : Except ε α) : Prop :=
  (p ∧ ∃ a, x = .ok a) ∨ (¬ p ∧ ∃ e, x = .error e ∧ f e)

namespace SucceedsIff
variable {p q : Prop} {f : ε → Prop} {x : Except ε α}

theorem exists_ok_iff (h : SucceedsIff p f x) : (∃ a, x = .ok a) ↔ p := by
  rcases h with ⟨holds, ok⟩ | ⟨fails, e, error, -⟩
  · exact iff_of_true ok holds
  · refine iff_of_false (fun ⟨a, ok⟩ => ?_) fails
    cases ok.symm.trans error

theorem error {e : ε} (h : SucceedsIff p f x) (failed : x = .error e) : f e := by
  rcases h with ⟨-, a, ok⟩ | ⟨-, e', error, fault⟩
  · cases ok.symm.trans failed
  · exact Except.error.inj (error.symm.trans failed) ▸ fault

theorem congr (h : SucceedsIff p f x) (same : p ↔ q) : SucceedsIff q f x := by
  rwa [SucceedsIff, ← same]

theorem weaken {f' : ε → Prop} (h : SucceedsIff p f x) (more : ∀ e, f e → f' e) :
    SucceedsIff p f' x :=
  h.imp_right fun ⟨fails, e, error, fault⟩ => ⟨fails, e, error, more e fault⟩

theorem pure (a : α) : SucceedsIff True f (.ok a) := .inl ⟨trivial, a, rfl⟩

theorem bind {g : α → Except ε β} (h : SucceedsIff p f x)
    (rest : ∀ a, x = .ok a → SucceedsIff q f (g a)) : SucceedsIff (p ∧ q) f (x >>= g) := by
  rcases h with ⟨holds, a, rfl⟩ | ⟨fails, e, rfl, fault⟩
  · exact (rest a rfl).congr (by simp [holds])
  · exact .inr ⟨fun both => fails both.1, e, rfl, fault⟩

/-- What follows a calculation and always succeeds adds no condition. -/
theorem bind_ok {g : α → Except ε β} (h : SucceedsIff p f x)
    (rest : ∀ a, x = .ok a → ∃ b, g a = .ok b) : SucceedsIff p f (x >>= g) :=
  (h.bind fun a done => .inl ⟨trivial, rest a done⟩).congr (by simp)

theorem map (h : SucceedsIff p f x) (g : α → β) : SucceedsIff p f (g <$> x) := by
  rcases h with ⟨holds, a, rfl⟩ | ⟨fails, e, rfl, fault⟩
  · exact .inl ⟨holds, g a, rfl⟩
  · exact .inr ⟨fails, e, rfl, fault⟩

theorem mapError {g : ε → ε'} {f' : ε' → Prop} (h : SucceedsIff p f x)
    (image : ∀ e, f e → f' (g e)) : SucceedsIff p f' (x.mapError g) := by
  rcases h with ⟨holds, a, rfl⟩ | ⟨fails, e, rfl, fault⟩
  · exact .inl ⟨holds, a, rfl⟩
  · exact .inr ⟨fails, g e, rfl, image e fault⟩

theorem mapM {P : α → Prop} {g : α → Except ε β} {xs : List α}
    (each : ∀ a ∈ xs, SucceedsIff (P a) f (g a)) :
    SucceedsIff (∀ a ∈ xs, P a) f (xs.mapM g) := by
  induction xs with
  | nil => exact (pure []).congr (by simp)
  | cons a xs ih =>
    obtain ⟨here, later⟩ := List.forall_mem_cons.1 each
    rw [List.mapM_cons]
    have both := here.bind fun b _ => (ih later).bind fun bs _ => pure (f := f) (b :: bs)
    exact both.congr (by simp)

end SucceedsIff

theorem forall₂_of_mapM {f : α → Except ε β} {xs : List α} {ys : List β}
    (h : xs.mapM f = .ok ys) : List.Forall₂ (fun x y => f x = .ok y) xs ys := by
  induction xs generalizing ys with
  | nil =>
    obtain rfl : [] = ys := Except.ok.inj h
    exact .nil
  | cons x xs ih =>
    rw [List.mapM_cons] at h
    obtain ⟨y, hy, h⟩ := bind_eq_ok h
    obtain ⟨rest, hrest, h⟩ := bind_eq_ok h
    obtain rfl : y :: rest = ys := Except.ok.inj h
    exact .cons hy (ih hrest)

theorem length_mapM {f : α → Except ε β} {xs : List α} {ys : List β} (h : xs.mapM f = .ok ys) :
    ys.length = xs.length := (forall₂_of_mapM h).length_eq.symm

end CalcSheet
