import CalcSheet.Proofs.Decimal.Range
import CalcSheet.Proofs.Scalar.Finite

/-!
# Scalars in the exponent range

Whatever the operands are, a finite result of an operation is in the exponent range and has no more
digits than the precision.
-/
namespace CalcSheet.Scalar
open Decimal

variable {n p payload : Nat} {x y z : Scalar} {negative signaling : Bool}

/-- A number in the exponent range with at most `p` digits, or no number at all. -/
def IsWithin (p : Nat) : Scalar → Prop
  | .finite x => x.IsWithin p
  | _ => True

theorem IsWithin.mono (h : x.IsWithin p) (le : p ≤ n) : x.IsWithin n := by
  cases x with
  | finite d => exact Decimal.IsWithin.mono h le
  | _ => trivial

theorem IsWithin.order (h : x.IsWithin p) (finite : x.IsFinite) : x.order ≤ maxOrder := by
  obtain ⟨d, rfl⟩ := finite.eq_finite
  exact Decimal.IsWithin.order h

/-- A scalar that rounding to some places does not take out of the exponent range. -/
def StaysInRange (places : Int) : Scalar → Prop
  | .finite x => (x.rounded places).order ≤ maxOrder
  | _ => True

instance (places : Int) : DecidablePred (StaysInRange places)
  | .finite x => inferInstanceAs (Decidable ((x.rounded places).order ≤ maxOrder))
  | .infinite _ | .nan .. => isTrue trivial

theorem IsWithin.staysInRange {places : Int} (h : x.IsWithin 1000000) (nonneg : 0 ≤ places) :
    x.StaysInRange places := by
  cases x with
  | finite d => exact Decimal.IsWithin.order_rounded h nonneg
  | _ => trivial

/-- If a calculation has a result, this is rounded to `p` digits. -/
def IsRounded (p : Nat) (r : Except Signal Scalar) : Prop := ∀ z, r = .ok z → z.IsWithin p

namespace IsRounded

theorem ok (h : z.IsWithin p) : IsRounded p (.ok z) := by
  rintro _ same
  exact Except.ok.inj same ▸ h

theorem error (s : Signal) : IsRounded p (.error s) := by
  rintro _ same
  cases same

theorem map {r : Except Signal Decimal} (each : ∀ d, r = .ok d → d.IsWithin p) :
    IsRounded p (Scalar.finite <$> r) := by
  intro z mapped
  obtain ⟨d, done, rfl⟩ := map_eq_ok mapped
  exact each d done

theorem ofNaN_left (y : Scalar) : IsRounded p (ofNaN n (.nan negative signaling payload) y) := by
  unfold ofNaN
  split
  · exact .error _
  · exact .ok trivial

theorem ofNaN_right (x : Scalar) : IsRounded p (ofNaN n x (.nan negative signaling payload)) := by
  cases x with
  | nan => exact ofNaN_left _
  | _ =>
    unfold ofNaN
    split
    · exact .error _
    · exact .ok trivial

end IsRounded

/-! ### Operations -/

theorem isRounded_neg (pos : 0 < p) (x : Scalar) : IsRounded p (x.neg p) := by
  cases x with
  | finite d => exact .map fun _ => isWithin_neg pos
  | infinite => exact .ok trivial
  | nan => exact .ofNaN_left _

theorem isRounded_add (pos : 0 < p) (x y : Scalar) : IsRounded p (x.add p y) := by
  cases x with
  | finite d =>
    cases y with
    | finite e => exact .map fun _ => isWithin_add pos
    | infinite => exact .ok trivial
    | nan => exact .ofNaN_right _
  | infinite a =>
    cases y with
    | finite => exact .ok trivial
    | infinite b =>
      unfold add
      dsimp only
      split
      · exact .ok trivial
      · exact .error _
    | nan => exact .ofNaN_right _
  | nan => exact .ofNaN_left _

theorem isRounded_scaleInfinity (negative : Bool) (d : Decimal) :
    IsRounded p (scaleInfinity negative d) := by
  unfold scaleInfinity
  split
  · exact .error _
  · exact .ok trivial

theorem isRounded_mul (pos : 0 < p) (x y : Scalar) : IsRounded p (x.mul p y) := by
  cases x with
  | finite d =>
    cases y with
    | finite e => exact .map fun _ => isWithin_mul pos
    | infinite => exact isRounded_scaleInfinity _ _
    | nan => exact .ofNaN_right _
  | infinite =>
    cases y with
    | finite => exact isRounded_scaleInfinity _ _
    | infinite => exact .ok trivial
    | nan => exact .ofNaN_right _
  | nan => exact .ofNaN_left _

theorem isRounded_div (pos : 0 < p) (x y : Scalar) : IsRounded p (x.div p y) := by
  cases x with
  | finite d =>
    cases y with
    | finite e => exact .map fun _ => isWithin_div pos
    | infinite => exact .ok (isWithin_zero pos _ (minExponent_le p))
    | nan => exact .ofNaN_right _
  | infinite =>
    cases y with
    | finite => exact .ok trivial
    | infinite => exact .error _
    | nan => exact .ofNaN_right _
  | nan => exact .ofNaN_left _

/-! ### Powers -/

theorem isRounded_powFinite (pos : 0 < p) (d e : Decimal) : IsRounded p (powFinite p d e) := by
  unfold powFinite
  dsimp only
  split
  · split
    · exact .error _
    · split
      · exact .ok trivial
      · exact .ok (isWithin_zero pos _ (by decide))
  · exact .map fun _ => isWithin_pow pos

theorem isRounded_powLimit (pos : 0 < p) (x : Scalar) (falling : Bool) :
    IsRounded p (powLimit p x falling) := by
  have zero : IsWithin p (.finite .zero) := isWithin_zero pos false (by decide)
  unfold powLimit
  split
  · split
    · exact .ok (iteInduction (fun _ => trivial) fun _ => zero)
    · split
      · exact .error _
      · split
        · exact .ok (isWithin_paddedOne false (Nat.sub_lt pos Nat.one_pos))
        · exact .ok (iteInduction (fun _ => trivial) fun _ => zero)
  · exact .error _
  · exact .ok (iteInduction (fun _ => zero) fun _ => trivial)

theorem isRounded_powInfinity (pos : 0 < p) (negative : Bool) (e : Decimal) :
    IsRounded p (powInfinity negative e) := by
  have one : IsWithin p Scalar.one := isWithin_paddedOne false pos
  unfold powInfinity
  dsimp only
  split
  · exact .error _
  · split
    · exact .ok one
    · split
      · exact .ok (isWithin_zero pos _ (by decide))
      · exact .ok trivial

theorem isRounded_pow (pos : 0 < p) (x y : Scalar) : IsRounded p (x.pow p y) := by
  cases x with
  | finite d =>
    cases y with
    | finite e => exact isRounded_powFinite pos d e
    | infinite falling => exact isRounded_powLimit pos (.finite d) falling
    | nan => exact .ofNaN_right _
  | infinite negative =>
    cases y with
    | finite e => exact isRounded_powInfinity pos negative e
    | infinite falling => exact isRounded_powLimit pos (.infinite negative) falling
    | nan => exact .ofNaN_right _
  | nan => exact .ofNaN_left _

end CalcSheet.Scalar
