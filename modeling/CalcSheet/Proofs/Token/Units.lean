import CalcSheet.Proofs.Success
import CalcSheet.Proofs.Token.Matchers

/-!
# Units in alike texts

A unit expression holds no sign of a reference, and known names without that sign are all that
decides where it ends.
-/
namespace CalcSheet
open Reference

variable {t t' : Text}

namespace PhysicalUnit

theorem exponent?_alike (h : Alike t t') : exponent? t = exponent? t' := by
  cases h with
  | nil => rfl
  | sign => rfl
  | cons c h =>
    by_cases power : c = '^'
    · subst power
      cases h with
      | nil => rfl
      | sign => rfl
      | cons d h =>
        have digits := h.takeWhile_eq (p := Text.isDecimal) (by rfl)
        have all := (h.cons d).takeWhile_eq (p := Text.isDecimal) (by rfl)
        by_cases minus : d = '-'
        · simp only [exponent?, minus, digits]
        · simp [exponent?, minus, all]
    · simp [exponent?, power]

theorem exponent?_free {e : WrittenExponent} (found : exponent? t = some e) :
    Free t e.length := by
  unfold exponent? at found
  dsimp only at found
  split at found
  · next rest =>
    split at found
    · exact nomatch found
    · obtain rfl := Option.some.inj found
      exact ((Free.takeWhile (p := Text.isDecimal) rfl rest).cons (by decide)).cons (by decide)
  · next rest _ =>
    split at found
    · exact nomatch found
    · obtain rfl := Option.some.inj found
      exact (Free.takeWhile (p := Text.isDecimal) rfl rest).cons (by decide)
  · exact nomatch found

theorem term?_alike (h : Alike t t') : term? t = term? t' := by
  have name := h.takeWhile_eq (p := Text.isNameChar) (by rfl)
  have exponent := exponent?_alike (h.drop_takeWhile (p := Text.isNameChar) (by rfl))
  simp only [term?, ← name, exponent]

theorem term?_free {term : Term} (found : term? t = some term) :
    0 < term.length ∧ Free t term.length := by
  have name : Free t (t.takeWhile Text.isNameChar).length := .takeWhile rfl t
  unfold term? at found
  dsimp only at found
  split at found
  · exact nomatch found
  · next named =>
    obtain rfl := Option.some.inj found
    have pos := List.length_pos_of_ne_nil fun empty => named (List.isEmpty_iff.2 empty)
    cases written : exponent? (t.drop (t.takeWhile Text.isNameChar).length) with
    | none => exact ⟨by simp only [Term.length]; omega, by simpa [Term.length] using name⟩
    | some e =>
      refine ⟨by simp only [Term.length]; omega, ?_⟩
      exact name.add (exponent?_free written)

end PhysicalUnit

namespace Token

variable {names names' : List KnownName}

/-- The lengths of unit expressions are the same in alike texts. -/
theorem unitLengths_alike
    (same : ∀ u : Text, '&' ∉ u → (names.any (·.text = u)) = names'.any (·.text = u))
    (h : Alike t t') {fuel fuel' : Nat} (enough : t.length ≤ fuel) (enough' : t'.length ≤ fuel')
    (taken : Nat) :
    unitLengths names fuel taken t = unitLengths names' fuel' taken t' := by
  induction fuel generalizing fuel' taken t t' with
  | zero =>
    obtain rfl := List.eq_nil_of_length_eq_zero (Nat.le_zero.1 enough)
    cases h
    cases fuel' <;> rfl
  | succ fuel ih =>
    cases fuel' with
    | zero =>
      obtain rfl := List.eq_nil_of_length_eq_zero (Nat.le_zero.1 enough')
      cases h
      rfl
    | succ fuel' =>
      simp only [unitLengths, ← PhysicalUnit.term?_alike h]
      cases found : PhysicalUnit.term? t with
      | none => rfl
      | some term =>
        obtain ⟨pos, free⟩ := PhysicalUnit.term?_free found
        have known : (names.any (·.text = t.take term.length))
            = names'.any (·.text = t'.take term.length) := by
          rw [← h.take_eq free]
          exact same _ free.not_mem
        simp only [known]
        congr 2
        have rest := h.drop free
        have shorter : (t.drop term.length).length ≤ fuel := by simp; omega
        have shorter' : (t'.drop term.length).length ≤ fuel' := by simp; omega
        generalize t.drop term.length = u at rest shorter
        generalize t'.drop term.length = u' at rest shorter'
        cases rest with
        | nil => rfl
        | sign => rfl
        | cons c rest =>
          simp only [List.length_cons] at shorter shorter'
          have later := ih rest (show _ ≤ fuel by omega) (show _ ≤ fuel' by omega)
          simp only [later]

/-- Every length is that of a unit expression behind what has been taken. -/
theorem unitLengths_free {fuel taken n : Nat} (mem : n ∈ unitLengths names fuel taken t) :
    ∃ m, n = taken + m ∧ 0 < m ∧ Free t m := by
  induction fuel generalizing taken t with
  | zero => exact nomatch mem
  | succ fuel ih =>
    unfold unitLengths at mem
    cases found : PhysicalUnit.term? t with
    | none => simp [found] at mem
    | some term =>
      obtain ⟨pos, free⟩ := PhysicalUnit.term?_free found
      simp only [found] at mem
      split at mem
      · exact nomatch mem
      · rcases List.mem_cons.1 mem with rfl | mem
        · exact ⟨_, rfl, pos, free⟩
        · split at mem
          · next c rest following =>
            split at mem
            · next operator =>
              obtain ⟨m, rfl, -, later⟩ := ih mem
              have other : c ≠ '&' := by rcases operator with rfl | rfl <;> decide
              refine ⟨term.length + (m + 1), by omega, by omega, free.add ?_⟩
              rw [following]
              exact later.cons other
            · exact nomatch mem
          · exact nomatch mem

theorem unitOf?_alike (h : Alike t t') {lengths : List Nat} (free : ∀ n ∈ lengths, Free t n) :
    unitOf? t lengths = unitOf? t' lengths := by
  induction lengths with
  | nil => rfl
  | cons n shorter ih =>
    have here := free n List.mem_cons_self
    simp only [unitOf?, h.take_eq here, (h.drop here).head?_eq,
      ih fun m hm => free m (List.mem_cons_of_mem _ hm)]

theorem unitOf?_mem {lengths : List Nat} {u : Option PhysicalUnit} {n : Nat}
    (found : unitOf? t lengths = .ok (some (u, n))) : n ∈ lengths := by
  induction lengths with
  | nil => exact nomatch found
  | cons m shorter ih =>
    unfold unitOf? at found
    split at found
    · exact List.mem_cons_of_mem _ (ih found)
    · split at found
      · obtain ⟨rfl, rfl⟩ := Prod.mk.inj (Option.some.inj (Except.ok.inj found))
        exact List.mem_cons_self
      · exact nomatch found
      · obtain ⟨rfl, rfl⟩ := Prod.mk.inj (Option.some.inj (Except.ok.inj found))
        exact List.mem_cons_self
      · exact List.mem_cons_of_mem _ (ih found)

theorem unitAt?_alike
    (same : ∀ u : Text, '&' ∉ u → (names.any (·.text = u)) = names'.any (·.text = u))
    (h : Alike t t') : unitAt? names t = unitAt? names' t' := by
  have lengths := unitLengths_alike same h (Nat.le_refl _) (Nat.le_refl _) 0
  rw [unitAt?, unitAt?, ← lengths]
  refine unitOf?_alike h fun n mem => ?_
  obtain ⟨m, rfl, -, free⟩ := unitLengths_free (List.mem_reverse.1 mem)
  rwa [Nat.zero_add]

theorem unitAt?_free {u : Option PhysicalUnit} {n : Nat}
    (found : unitAt? names t = .ok (some (u, n))) : 0 < n ∧ Free t n := by
  obtain ⟨m, rfl, pos, free⟩ := unitLengths_free (List.mem_reverse.1 (unitOf?_mem found))
  rw [Nat.zero_add]
  exact ⟨pos, free⟩

theorem unit?_alike (previous : Option Char)
    (same : ∀ u : Text, '&' ∉ u → (names.any (·.text = u)) = names'.any (·.text = u))
    (h : Alike t t') : unit? names previous t = unit? names' previous t' := by
  rw [unit?, unit?, unitAt?_alike same h]

theorem unit?_takes {previous : Option Char} {m : Match}
    (found : unit? names previous t = .ok (some m)) : Takes t m := by
  unfold unit? at found
  split at found
  · exact nomatch found
  · obtain ⟨result, at_, found⟩ := bind_eq_ok found
    obtain ⟨⟨u, n⟩, rfl, rfl⟩ := Option.map_eq_some_iff.1 (Except.ok.inj found)
    obtain ⟨pos, free⟩ := unitAt?_free at_
    exact ⟨pos, free, nofun⟩

theorem conversion?_alike (begun : Bool) (previous : Option Char) (h : Alike t t') :
    conversion? begun previous t = conversion? begun previous t' := by
  cases h with
  | nil => rfl
  | sign => rfl
  | cons c h =>
    cases h with
    | nil => rfl
    | sign => simp [conversion?]
    | cons d h =>
      by_cases first : c = 't'
      · by_cases second : d = 'o'
        · subst first second
          have gap := h.takeWhile_eq (p := Text.isBlank) (by rfl)
          have rest := h.drop_takeWhile (p := Text.isBlank) (by rfl)
          simp only [conversion?, ← gap, unitAt?_alike (fun _ _ => rfl) rest]
        · simp [conversion?, second]
      · simp [conversion?, first]

theorem conversion?_takes {begun : Bool} {previous : Option Char} {m : Match}
    (found : conversion? begun previous t = .ok (some m)) : Takes t m := by
  unfold conversion? at found
  split at found
  · next rest =>
    dsimp only at found
    split at found
    · exact nomatch found
    · obtain ⟨result, at_, found⟩ := bind_eq_ok found
      obtain ⟨⟨u, n⟩, rfl, rfl⟩ := Option.map_eq_some_iff.1 (Except.ok.inj found)
      obtain ⟨-, free⟩ := unitAt?_free at_
      have gap : Free rest (rest.takeWhile Text.isBlank).length := .takeWhile rfl rest
      have whole := ((gap.add free).cons (c := 'o') (by decide)).cons (c := 't') (by decide)
      rw [Nat.add_comm (rest.takeWhile Text.isBlank).length] at whole
      exact ⟨Nat.succ_pos _, whole, nofun⟩
  · exact nomatch found

end Token
end CalcSheet
