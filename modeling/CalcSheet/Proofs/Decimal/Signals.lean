import CalcSheet.Decimal.Power
import CalcSheet.Proofs.Success

/-!
# What decimal arithmetic signals

Rounding signals overflow and nothing else, and every operation ends with a rounding. So other
signals come only from a division by zero and from a power of a negative number.
-/
namespace CalcSheet.Decimal

variable {α β : Type} {p : Nat} {x y : Decimal}

/-- Overflow is all that a calculation can signal. -/
def OverflowsOnly (r : Except Signal α) : Prop := ∀ s, r = .error s → s = .overflow

theorem OverflowsOnly.ok (a : α) : OverflowsOnly (.ok a) := nofun

theorem OverflowsOnly.error : OverflowsOnly (.error .overflow : Except Signal α) :=
  fun _ same => (Except.error.inj same).symm

theorem OverflowsOnly.bind {r : Except Signal α} {f : α → Except Signal β} (first : OverflowsOnly r)
    (rest : ∀ a, r = .ok a → OverflowsOnly (f a)) : OverflowsOnly (r >>= f) := by
  intro s failed
  rcases bind_eq_error failed with failed | ⟨a, done, failed⟩
  · exact first s failed
  · exact rest a done s failed

theorem OverflowsOnly.map {r : Except Signal α} (f : α → β) (h : OverflowsOnly r) :
    OverflowsOnly (f <$> r) := fun s failed => h s (map_eq_error failed)

theorem overflowsOnly_round (p : Nat) (x : Decimal) : OverflowsOnly (round p x) := by
  unfold round
  split
  · exact .ok _
  · dsimp only
    split
    · exact .error
    · exact .ok _

theorem overflowsOnly_mul (p : Nat) (x y : Decimal) : OverflowsOnly (mul p x y) :=
  overflowsOnly_round p _

theorem overflowsOnly_div (p : Nat) (x : Decimal) (nonzero : ¬ y.IsZero) :
    OverflowsOnly (div p x y) := by
  unfold div
  rw [if_neg nonzero]
  dsimp only
  split
  · exact overflowsOnly_round p _
  · split
    · exact overflowsOnly_round p _
    · exact overflowsOnly_round p _

theorem overflowsOnly_powNat (p : Nat) (x : Decimal) (bits n : Nat) :
    OverflowsOnly (powNat p x bits n) := by
  induction bits generalizing n with
  | zero => exact .ok _
  | succ bits ih =>
    unfold powNat
    split
    · exact .ok _
    · refine (ih _).bind fun root _ => (overflowsOnly_mul p root root).bind fun square _ => ?_
      split
      · exact .ok _
      · exact overflowsOnly_mul p square x

theorem overflowsOnly_powFrom (p bits n : Nat) (x result : Decimal) :
    OverflowsOnly (powFrom p bits n x result) := by
  induction bits generalizing n x result with
  | zero => exact .ok _
  | succ bits ih =>
    unfold powFrom
    have rest (result : Decimal) : OverflowsOnly (if n / 2 = 0 then .ok result else
        mul p x x >>= fun square => powFrom p bits (n / 2) square result) := by
      split
      · exact .ok _
      · exact (overflowsOnly_mul p x x).bind fun square _ => ih _ square result
    dsimp only
    split
    · exact rest result
    · exact (overflowsOnly_mul p result x).bind fun result _ => rest result

theorem overflowsOnly_powInt (p : Nat) (negative : Bool) (nonzero : ¬ x.IsZero) (n : Int) :
    OverflowsOnly (powInt p negative x n) := by
  unfold powInt
  have rest (guarded : Nat) (base : Decimal) : OverflowsOnly
      (if n.natAbs.log2 < 64 then
        powNat guarded base n.natAbs.log2 n.natAbs >>= fun y => round p { y with negative }
      else
        powFrom guarded (n.natAbs.log2 + 1) n.natAbs base one >>= fun y =>
          round p { y with negative }) := by
    split
    · exact (overflowsOnly_powNat _ _ _ _).bind fun y _ => overflowsOnly_round p _
    · exact (overflowsOnly_powFrom _ _ _ _ _).bind fun y _ => overflowsOnly_round p _
  dsimp only
  split
  · exact (overflowsOnly_div _ one (y := x.abs) nonzero).bind fun reciprocal _ => rest _ reciprocal
  · exact rest _ x.abs

theorem toInt?_ofInt (n : Int) : (ofInt n).toInt? = some n := by
  by_cases zero : n = 0
  · subst zero
    rfl
  · have nonzero : ¬ (ofInt n).IsZero := Int.natAbs_ne_zero.2 zero
    have whole : (ofInt n).wholeDigits? = some n.natAbs := if_pos (.inr (Int.le_refl 0))
    rw [toInt?, if_neg nonzero, whole]
    change some (if decide (n < 0) = true then -((n.natAbs : Int) * 1) else n.natAbs * 1) = some n
    simp only [Int.mul_one, decide_eq_true_eq]
    congr 1
    split <;> omega

theorem isInteger_ofInt (n : Int) : (ofInt n).IsInteger := by
  simp [IsInteger, wholeDigits?, ofInt]

/-- An integer power of a number other than zero signals overflow or nothing. -/
theorem overflowsOnly_pow_ofInt (p : Nat) (nonzero : ¬ x.IsZero) (n : Int) :
    OverflowsOnly (pow p x (ofInt n)) := by
  unfold pow
  dsimp only
  rw [if_neg fun h => h.2 (isInteger_ofInt n), toInt?_ofInt]
  split
  · exact .ok _
  · split
    · exact .ok _
    · split
      · next result out =>
        unfold powOutOfRange? at out
        split at out
        · exact nomatch out
        · split at out
          · exact Option.some.inj out ▸ .error
          · exact Option.some.inj out ▸ .ok _
      · exact overflowsOnly_powInt p _ nonzero n

end CalcSheet.Decimal
