import CalcSheet.Proofs.Evaluation.Containment
import CalcSheet.Proofs.Scalar.Range
import CalcSheet.Proofs.Token.Literals

/-!
# Quantities in the exponent range

Every operation rounds the number of its result to the working precision, or passes on a number
that it was given. So the numbers of a calculation are in the exponent range, and have no more
digits than the working precision or the numbers that it begins with.
-/
namespace CalcSheet
namespace Quantity

variable {p : Nat} {x y : Quantity} {unit : Option PhysicalUnit} {value : Scalar}

/-- The number of the quantity, if it has one, is in the exponent range and has at most `p`
digits. -/
def IsWithin (p : Nat) (q : Quantity) : Prop := q.value.IsWithin p

theorem isWithin_one (pos : 0 < p) : (ofDecimal .one).IsWithin p :=
  Decimal.isWithin_paddedOne false pos

/-! ### Parts of calculations -/

theorem lift_isWithin {r : Except Decimal.Signal Scalar} (precise : workingPrecision ≤ p)
    (h : Scalar.IsRounded workingPrecision r) : Yields (·.IsWithin p) (fun _ => True) (lift r) :=
  .of_forall_ok fun value done => (h value (mapError_eq_ok done)).mono precise

theorem scaled_isWithin (precise : workingPrecision ≤ p) (a b : Scalar) :
    Yields (·.IsWithin p) (fun _ => True) (lift (a.mul workingPrecision b)) :=
  lift_isWithin precise (Scalar.isRounded_mul (by decide) a b)

theorem sum_isWithin (precise : workingPrecision ≤ p) (a b : Scalar) :
    Yields (·.IsWithin p) (fun _ => True) (lift (a.add workingPrecision b)) :=
  lift_isWithin precise (Scalar.isRounded_add (by decide) a b)

theorem power_isWithin (precise : workingPrecision ≤ p) (a b : Scalar) :
    Yields (·.IsWithin p) (fun _ => True) (lift (a.pow workingPrecision b)) :=
  lift_isWithin precise (Scalar.isRounded_pow (by decide) a b)

theorem collapse_isWithin (precise : workingPrecision ≤ p) (h : value.IsWithin p)
    (u : PhysicalUnit) : Yields (IsWithin p) (fun _ => True) (collapse value u) := by
  unfold collapse
  split
  · exact (scaled_isWithin precise value u.factor).bind fun scaled h => h
  · exact h

/-! ### Operations -/

theorem neg_isWithin (precise : workingPrecision ≤ p) (x : Quantity) :
    Yields (IsWithin p) (fun _ => True) x.neg :=
  (lift_isWithin precise (Scalar.isRounded_neg (by decide) _)).bind fun value h => h

theorem add_isWithin (precise : workingPrecision ≤ p) (x y : Quantity) :
    Yields (IsWithin p) (fun _ => True) (x.add y) := by
  unfold add
  split
  · trivial
  · split
    · exact (sum_isWithin precise _ _).bind fun value h => h
    · exact .bind_any fun factor => .bind_any fun scaled =>
        (sum_isWithin precise _ _).bind fun value h => h

theorem mul_isWithin (precise : workingPrecision ≤ p) (x y : Quantity) :
    Yields (IsWithin p) (fun _ => True) (x.mul y) := by
  unfold mul
  refine (scaled_isWithin precise _ _).bind fun value h => ?_
  split
  · exact .bind_any fun product => collapse_isWithin precise h product
  · exact h
  · exact h

theorem div_isWithin (precise : workingPrecision ≤ p) (x y : Quantity) :
    Yields (IsWithin p) (fun _ => True) (x.div y) := by
  unfold div
  refine .bind_any fun zero => ?_
  split
  · trivial
  refine (lift_isWithin precise (Scalar.isRounded_div (by decide) _ _)).bind fun value h => ?_
  split
  · exact h
  · exact .bind_any fun reciprocal => collapse_isWithin precise h reciprocal
  · exact .bind_any fun quotient => collapse_isWithin precise h quotient

theorem pow_isWithin (precise : workingPrecision ≤ p) (x y : Quantity) :
    Yields (IsWithin p) (fun _ => True) (x.pow y) := by
  unfold pow
  split
  · trivial
  refine .bind_any fun inverts => ?_
  split
  · trivial
  split
  · exact (power_isWithin precise _ _).bind fun value h => h
  · next u _ =>
    refine .bind_any fun whole => ?_
    split
    · trivial
    · split
      · exact isWithin_one (Nat.lt_of_lt_of_le (by decide) precise)
      · exact (power_isWithin precise _ _).bind fun value h => .bind_any fun raised => h

theorem attach_isWithin (precise : workingPrecision ≤ p) (h : x.IsWithin p)
    (unit : Option PhysicalUnit) : Yields (IsWithin p) (fun _ => True) (x.attach unit) := by
  unfold attach
  split
  · trivial
  · split
    · trivial
    · split
      · exact (scaled_isWithin precise _ _).bind fun value h => h
      · exact h

theorem convert_isWithin (precise : workingPrecision ≤ p) (x : Quantity)
    (unit : Option PhysicalUnit) : Yields (IsWithin p) (fun _ => True) (x.convert unit) := by
  unfold convert
  split
  · trivial
  · exact .bind_any fun factor => (scaled_isWithin precise _ _).bind fun value h => h

end Quantity

/-- What the arithmetic of quantities keeps: that their numbers are in the exponent range and have
at most `p` digits. -/
theorem cellOperations_isWithin {p : Nat} (precise : workingPrecision ≤ p) :
    CellOperations (Quantity.IsWithin p) (fun _ => True) (fun _ => True) fun _ => True where
  contained _ _ := trivial
  count _ _ _ _ := trivial
  neg x _ := x.neg_isWithin precise
  add x y _ _ := x.add_isWithin precise y
  mul x y _ _ := x.mul_isWithin precise y
  div x y _ _ _ := x.div_isWithin precise y
  pow x y _ _ _ := x.pow_isWithin precise y
  attach _ unit h _ := Quantity.attach_isWithin precise h unit
  convert x unit _ _ := x.convert_isWithin precise unit

/-! ### Lines -/

/-- A number in the steps of a line is one of its tokens. -/
theorem Postfix.literal_of_mem {tokens : List Token} {step : Step} {x : Decimal}
    (mem : step ∈ ofTokens tokens) (literal : step.action = .push (.number x)) :
    ∃ t ∈ tokens, t.lexeme = .operand (.number x) := by
  have inherited : IsInherited fun a => ∀ x, a = .push (.number x) →
      ∃ t ∈ tokens, t.lexeme = .operand (.number x) := ⟨by simp, by simp, by simp⟩
  have own : ∀ t ∈ tokens, ∀ a ∈ ownAction? t.lexeme, ∀ x, a = .push (.number x) →
      ∃ t ∈ tokens, t.lexeme = .operand (.number x) := by
    rintro t mem a own x rfl
    cases lexeme : t.lexeme <;> rw [lexeme] at own <;> cases own
    exact ⟨t, mem, lexeme⟩
  obtain ⟨steps, last, whole, written, assigns⟩ := ofTokens_holds inherited own
  rw [whole] at mem
  rcases List.mem_append.1 mem with mem | mem
  · exact written step mem x literal
  · have assign := assigns step (Option.mem_toList.1 mem)
    cases assign.symm.trans literal

theorem calculation_subset (steps : List Step) : calculation steps ⊆ steps := by
  unfold calculation
  split
  · exact List.dropLast_subset steps
  · exact List.Subset.refl _

namespace Line

variable {env : Environment} {names : List KnownName} {line : Text} {tokens : List Token}
  {o : Outcome}

/-- A result is made of quantities of one kind, if those of the variables, the literals and the
units of the line are. -/
theorem result_holds {p invertible : Quantity → Prop} {unit : Option PhysicalUnit → Prop}
    {f : Fault → Prop} (arithmetic : CellOperations p invertible unit f)
    (free : ∀ q, invertible q) (known : env.Holds p)
    (units : ∀ part u, part <:+: line → Token.ReadsUnit part u → unit u)
    (literals : ∀ t ∈ tokens, ∀ x, t.lexeme = .operand (.number x) → p (.ofDecimal x))
    (evaluated : evaluate env names line = .ok (tokens, some o)) : o.result.Holds p := by
  obtain ⟨scanned, calculated⟩ := parts_of_evaluate evaluated
  obtain ⟨m, ran, result⟩ := Outcome.run_of_ofSteps calculated
  have numbers : ∀ step ∈ calculation (Postfix.ofTokens tokens), ∀ x,
      step.action = .push (.number x) → p (.ofDecimal x) := by
    intro step mem x literal
    obtain ⟨t, inside, lexeme⟩ := Postfix.literal_of_mem (calculation_subset _ mem) literal
    exact literals t inside x lexeme
  have held := Machine.holds_of_literals arithmetic known
    (calculation_holds_of_reads scanned units) numbers (fun _ _ _ _ q _ => free q)
    ⟨_, List.prefix_rfl, ran⟩
  exact held o.result (by rw [result]; exact List.mem_cons_self)

/-- The numbers of a result are in the exponent range, if those of the variables are. Literals have
at most twice as many digits as the line has characters. -/
theorem result_isWithin {p : Nat} (precise : workingPrecision ≤ p) (moderate : p ≤ 1000000)
    (short : 2 * line.length ≤ p) (known : env.Holds (Quantity.IsWithin p))
    (evaluated : evaluate env names line = .ok (tokens, some o)) :
    o.result.Holds (Quantity.IsWithin p) := by
  obtain ⟨scanned, -⟩ := parts_of_evaluate evaluated
  refine result_holds (cellOperations_isWithin precise) (fun _ => trivial) known
    (fun _ _ _ _ => trivial) (fun t mem x lexeme => ?_) evaluated
  exact (Token.isLiteral_of_scan scanned t mem lexeme).isWithin
    (Nat.lt_of_lt_of_le (by decide) precise) short moderate

end Line
end CalcSheet
