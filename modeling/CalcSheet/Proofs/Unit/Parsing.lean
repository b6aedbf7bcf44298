import Mathlib.Data.List.TakeWhile
import CalcSheet.Proofs.Scalar.Finite
import CalcSheet.Unit.Expression

/-!
# Reading units

The factor of a unit that is read is a finite number. It may be zero, where a power has become too
small; a factor that has become too large interrupts the reading, and so does an exponent of too
many digits.
-/
namespace CalcSheet
open Decimal

variable {t t' : Text} {u w : PhysicalUnit}

/-- What is found for a name is an entry with this name, or with the one that it stands for. -/
theorem Catalogue.exists_name_of_find {name : Text} (found : find name = .ok u) :
    ∃ e ∈ entries, u = e.toUnit
      ∧ (aliases.lookup (String.ofList name)).getD (String.ofList name) ∈ e.names := by
  unfold find at found
  dsimp only at found
  split at found
  · exact nomatch found
  · split at found
    · next e matched =>
      have named := List.find?_some matched
      exact ⟨e, List.mem_of_find?_eq_some matched, (Except.ok.inj found).symm,
        List.contains_iff_mem.1 named⟩
    · repeat' split at found
      all_goals exact nomatch found

theorem Catalogue.exists_entry_of_find {name : Text} (found : find name = .ok u) :
    ∃ e ∈ entries, u = e.toUnit := by
  obtain ⟨e, listed, same, -⟩ := exists_name_of_find found
  exact ⟨e, listed, same⟩

/-- No unit of the catalogue has a factor of zero. -/
theorem Catalogue.isInvertible_of_find {name : Text} (found : find name = .ok u) :
    u.factor.IsInvertible := by
  have all : ∀ e ∈ entries, ¬ e.factor.IsZero := by decide +kernel
  obtain ⟨e, listed, rfl⟩ := exists_entry_of_find found
  exact all e listed

namespace PhysicalUnit

/-- Why the reading of a text as a unit can be interrupted. -/
inductive Interruption.ComesFrom (t : Text) : Interruption → Prop where
  | overflow : ComesFrom t (.signal .overflow)
  | longExponent {digits : Text} (written : digits <:+: t)
      (decimal : ∀ c ∈ digits, Text.isDecimal c = true)
      (long : Digits.maxLength < digits.length) : ComesFrom t (.longExponent digits.length)

theorem Interruption.ComesFrom.mono {cause : Interruption} (h : cause.ComesFrom t)
    (part : t <:+: t') : cause.ComesFrom t' := by
  cases h with
  | overflow => exact .overflow
  | longExponent written decimal long => exact .longExponent (written.trans part) decimal long

theorem Interruption.ComesFrom.of_signal {s : Signal} (h : s = .overflow) :
    (Interruption.signal s).ComesFrom t := h ▸ .overflow

theorem mul_isFinite (hu : u.factor.IsFinite) (hw : w.factor.IsFinite) {product : PhysicalUnit}
    (h : u.mul w = .ok product) : product.factor.IsFinite := by
  obtain ⟨factor, multiplied, done⟩ := bind_eq_ok h
  obtain rfl := Except.ok.inj done
  exact hu.mul hw multiplied

theorem mul_overflowsOnly (hu : u.factor.IsFinite) (hw : w.factor.IsFinite) :
    OverflowsOnly (u.mul w) :=
  (Scalar.overflowsOnly_mul hu hw).bind fun _ _ => .ok _

theorem pow_isFinite (hu : u.factor.IsInvertible) {n : Int} {power : PhysicalUnit}
    (h : u.pow n = .ok power) : power.factor.IsFinite := by
  obtain ⟨factor, raised, done⟩ := bind_eq_ok h
  obtain rfl := Except.ok.inj done
  exact hu.pow (Scalar.isFinite_ofInt n) raised

theorem pow_overflowsOnly (hu : u.factor.IsInvertible) (n : Int) : OverflowsOnly (u.pow n) :=
  (hu.overflowsOnly_pow n).bind fun _ _ => .ok _

/-! ### Terms -/

theorem digits_infix_of_exponent? {e : WrittenExponent} (found : exponent? t = some e) :
    e.digits <:+: t ∧ ∀ c ∈ e.digits, Text.isDecimal c = true := by
  have run (rest : Text) : rest.takeWhile Text.isDecimal <:+: rest :=
    (List.takeWhile_prefix _).isInfix
  have inside (rest : Text) : ∀ c ∈ rest.takeWhile Text.isDecimal, Text.isDecimal c = true :=
    List.all_eq_true.1 List.all_takeWhile
  unfold exponent? at found
  dsimp only at found
  split at found
  · next rest =>
    split at found
    · exact nomatch found
    · obtain rfl := Option.some.inj found
      exact ⟨(run rest).trans ⟨['^', '-'], [], by simp⟩, inside rest⟩
  · next rest _ =>
    split at found
    · exact nomatch found
    · obtain rfl := Option.some.inj found
      exact ⟨(run rest).trans ⟨['^'], [], by simp⟩, inside rest⟩
  · exact nomatch found

theorem digits_infix_of_term? {term : Term} (found : term? t = some term) :
    ∀ e ∈ term.exponent?, e.digits <:+: t ∧ ∀ c ∈ e.digits, Text.isDecimal c = true := by
  unfold term? at found
  dsimp only at found
  split at found
  · exact nomatch found
  · obtain rfl := Option.some.inj found
    intro e written
    obtain ⟨part, decimal⟩ := digits_infix_of_exponent? written
    exact ⟨part.trans (List.drop_suffix _ t).isInfix, decimal⟩

theorem comesFrom_of_exponent {term : Term} {cause : Interruption} (found : term? t = some term)
    (failed : term.exponent = .error cause) : cause.ComesFrom t := by
  have digits := digits_infix_of_term? found
  unfold Term.exponent at failed
  split at failed
  · exact nomatch failed
  · next e written =>
    split at failed
    · next long =>
      obtain rfl := Except.error.inj failed
      obtain ⟨part, decimal⟩ := digits e written
      exact .longExponent part decimal long
    · exact nomatch failed

variable {whole : Text} {sign : Int} {term : Term}

theorem ofTerm_isFinite (h : ofTerm whole sign term = .ok u) : u.factor.IsFinite := by
  obtain ⟨exponent, -, h⟩ := bind_eq_ok h
  split at h
  · exact nomatch h
  · split at h
    · exact nomatch h
    · next w found =>
      exact pow_isFinite (Catalogue.isInvertible_of_find found) (mapError_eq_ok h)

theorem comesFrom_of_ofTerm {cause : Interruption} (found : term? t = some term)
    (failed : ofTerm whole sign term = .error (.interrupted cause)) : cause.ComesFrom t := by
  rcases bind_eq_error failed with failed | ⟨exponent, -, failed⟩
  · obtain ⟨_, unread, same⟩ := mapError_eq_error failed
    obtain rfl := ParseFault.interrupted.inj same
    exact comesFrom_of_exponent found unread
  · split at failed
    · exact nomatch failed
    · split at failed
      · exact nomatch failed
      · next w named =>
        obtain ⟨s, signalled, same⟩ := mapError_eq_error failed
        obtain rfl := ParseFault.interrupted.inj same
        exact .of_signal (pow_overflowsOnly (Catalogue.isInvertible_of_find named) _ s signalled)

/-! ### Products of terms -/

/-- A product with one more factor. -/
def extend (product : Option PhysicalUnit) (factor : PhysicalUnit) :
    Except ParseFault PhysicalUnit :=
  match product with
  | none => .ok factor
  | some u => (u.mul factor).mapError (.interrupted ∘ .signal)

/-- How a product goes on at its end, after an operator or at another character. -/
def parseRest (whole : Text) (fuel : Nat) (product : PhysicalUnit) (position : Nat) :
    Text → Except ParseFault PhysicalUnit
  | [] => .ok product
  | '*' :: rest => parseFrom whole fuel (some product) 1 position rest
  | '/' :: rest => parseFrom whole fuel (some product) (-1) position rest
  | c :: _ => .error (.unexpected c whole)

variable {product : Option PhysicalUnit} {fuel position : Nat} {rest : Text}

theorem parseFrom_succ (found : term? rest = some term) :
    parseFrom whole (fuel + 1) product sign position rest
      = ofTerm whole sign term >>= fun factor => extend product factor >>= fun product =>
        parseRest whole fuel product (position + term.length + 1) (rest.drop term.length) := by
  rw [parseFrom, found]
  cases product <;> rfl

theorem extend_isFinite (finite : ∀ w ∈ product, w.factor.IsFinite) (hu : u.factor.IsFinite)
    (h : extend product u = .ok w) : w.factor.IsFinite := by
  cases product with
  | none =>
    obtain rfl := Except.ok.inj h
    exact hu
  | some v => exact mul_isFinite (finite v rfl) hu (mapError_eq_ok h)

theorem comesFrom_of_extend (finite : ∀ w ∈ product, w.factor.IsFinite) (hu : u.factor.IsFinite)
    {cause : Interruption} (failed : extend product u = .error (.interrupted cause)) :
    cause.ComesFrom t := by
  cases product with
  | none => exact nomatch failed
  | some v =>
    obtain ⟨s, signalled, same⟩ := mapError_eq_error failed
    obtain rfl := ParseFault.interrupted.inj same
    exact .of_signal (mul_overflowsOnly (finite v rfl) hu s signalled)

theorem parseFrom_isFinite (finite : ∀ w ∈ product, w.factor.IsFinite)
    (h : parseFrom whole fuel product sign position rest = .ok u) : u.factor.IsFinite := by
  induction fuel generalizing product sign position rest with
  | zero => exact nomatch h
  | succ fuel ih =>
    cases found : term? rest with
    | none =>
      rw [parseFrom, found] at h
      exact nomatch h
    | some term =>
      rw [parseFrom_succ found] at h
      obtain ⟨factor, named, h⟩ := bind_eq_ok h
      obtain ⟨next, extended, h⟩ := bind_eq_ok h
      have isFinite := extend_isFinite finite (ofTerm_isFinite named) extended
      unfold parseRest at h
      split at h
      · obtain rfl := Except.ok.inj h
        exact isFinite
      · exact ih (by simpa using isFinite) h
      · exact ih (by simpa using isFinite) h
      · exact nomatch h

theorem comesFrom_of_parseFrom (finite : ∀ w ∈ product, w.factor.IsFinite) {cause : Interruption}
    (failed : parseFrom whole fuel product sign position rest = .error (.interrupted cause)) :
    cause.ComesFrom rest := by
  induction fuel generalizing product sign position rest with
  | zero => exact nomatch failed
  | succ fuel ih =>
    cases found : term? rest with
    | none =>
      rw [parseFrom, found] at failed
      exact nomatch failed
    | some term =>
      rw [parseFrom_succ found] at failed
      rcases bind_eq_error failed with failed | ⟨factor, named, failed⟩
      · exact comesFrom_of_ofTerm found failed
      rcases bind_eq_error failed with failed | ⟨next, extended, failed⟩
      · exact comesFrom_of_extend finite (ofTerm_isFinite named) failed
      have isFinite := extend_isFinite finite (ofTerm_isFinite named) extended
      have part := List.drop_suffix term.length rest
      unfold parseRest at failed
      split at failed
      · exact nomatch failed
      · next following =>
        have later := (List.suffix_cons _ _).trans (following ▸ part)
        exact (ih (by simpa using isFinite) failed).mono later.isInfix
      · next following =>
        have later := (List.suffix_cons _ _).trans (following ▸ part)
        exact (ih (by simpa using isFinite) failed).mono later.isInfix
      · exact nomatch failed

theorem parse_isFinite (h : parse t = .ok u) : u.factor.IsFinite := by
  unfold parse at h
  split at h
  · exact nomatch h
  · exact parseFrom_isFinite (by simp) h

/-- The reading of a unit is interrupted by nothing but an overflow or a long exponent. -/
theorem comesFrom_of_parse {cause : Interruption} (failed : parse t = .error (.interrupted cause)) :
    cause.ComesFrom t := by
  unfold parse at failed
  split at failed
  · exact nomatch failed
  · exact comesFrom_of_parseFrom (by simp) failed

/-- The names of the derived units are all read. None of these units has a factor of zero, and all
have a text. -/
theorem derivedNames_read :
    ∀ name ∈ derivedNames, ∃ u, parse name.toList = .ok u ∧ u.factor.IsInvertible ∧ u.text ≠ [] := by
  decide +kernel

end PhysicalUnit
end CalcSheet
