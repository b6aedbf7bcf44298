import CalcSheet.Line
import CalcSheet.Proofs.Decimal.Integers
import CalcSheet.Proofs.Evaluation.Trees
import CalcSheet.Proofs.Postfix.Order
import CalcSheet.Proofs.Token.Integers

/-!
# Integer arithmetic of lines

A line that is an integer expression is calculated exactly, as long as no integer in it has more
than fifty digits.
-/
namespace CalcSheet

namespace Quantity
variable {x y z : Decimal}

theorem isModerate_workingPrecision : Decimal.IsModerate workingPrecision := by
  refine ⟨by decide, ?_⟩
  decide

theorem neg_ofDecimal (h : x.neg workingPrecision = .ok z) :
    (ofDecimal x).neg = .ok (ofDecimal z) := by
  simp only [neg, ofDecimal, ofScalar, Scalar.neg, h]
  rfl

theorem add_ofDecimal (h : x.add workingPrecision y = .ok z) :
    (ofDecimal x).add (ofDecimal y) = .ok (ofDecimal z) := by
  simp only [add, ofDecimal, ofScalar, dimensions, Scalar.add, h]
  rfl

theorem mul_ofDecimal (h : x.mul workingPrecision y = .ok z) :
    (ofDecimal x).mul (ofDecimal y) = .ok (ofDecimal z) := by
  simp only [mul, ofDecimal, ofScalar, Scalar.mul, h]
  rfl

end Quantity

namespace Value
open Quantity

/-- A plain number that is an integer. -/
def IsInteger (v : Value) (n : Int) : Prop :=
  ∃ x : Decimal, v = .number (.ofDecimal x) ∧ x.Denotes n

namespace IsInteger
variable {v w : Value} {m n : Int}

theorem neg (h : v.IsInteger n) (fits : n.natAbs < 10 ^ 50) :
    ∃ z, v.neg = .ok z ∧ z.IsInteger (-n) := by
  obtain ⟨x, rfl, hx⟩ := h
  obtain ⟨z, done, hz⟩ := hx.neg isModerate_workingPrecision fits
  refine ⟨.number (.ofDecimal z), ?_, z, rfl, hz⟩
  rw [Value.neg, map, neg_ofDecimal done]
  rfl

/-- An operator on integers that fit, whose result fits. -/
theorem binary (op : RingOp) (hv : v.IsInteger m) (hw : w.IsInteger n)
    (fits : n.natAbs < 10 ^ 50) (fits' : (op.apply m n).natAbs < 10 ^ 50) :
    ∃ z, binary op.toBinaryOp v w = .ok z ∧ z.IsInteger (op.apply m n) := by
  obtain ⟨x, rfl, hx⟩ := hv
  obtain ⟨y, rfl, hy⟩ := hw
  cases op with
  | add =>
    obtain ⟨z, done, hz⟩ := hx.add isModerate_workingPrecision hy fits'
    refine ⟨.number (.ofDecimal z), ?_, z, rfl, hz⟩
    simp only [RingOp.toBinaryOp, Value.binary, Quantity.binary, add_ofDecimal done]
    rfl
  | sub =>
    obtain ⟨opposite, negated, hy⟩ := hy.neg isModerate_workingPrecision fits
    obtain ⟨z, done, hz⟩ := hx.add isModerate_workingPrecision hy fits'
    refine ⟨.number (.ofDecimal z), ?_, z, rfl, hz⟩
    simp only [RingOp.toBinaryOp, Value.binary, Quantity.binary, sub, neg_ofDecimal negated]
    change number <$> (ofDecimal x).add (ofDecimal opposite) = _
    rw [add_ofDecimal done]
    rfl
  | mul =>
    obtain ⟨z, done, hz⟩ := hx.mul isModerate_workingPrecision hy fits'
    refine ⟨.number (.ofDecimal z), ?_, z, rfl, hz⟩
    simp only [RingOp.toBinaryOp, Value.binary, Quantity.binary, mul_ofDecimal done]
    rfl

end IsInteger
end Value

namespace IntegerTree
variable {e : IntegerTree} {tree : Tree} {t : Text}

/-- The value of a tree is the integer that its expression stands for, if all integers in it have at
most fifty digits. -/
theorem Forms.value (env : Environment) (forms : Forms e tree)
    (fits : ∀ s ∈ e.subtrees, s.value.natAbs < 10 ^ 50) :
    ∃ v, tree.value env = .ok v ∧ v.IsInteger e.value := by
  induction forms with
  | literal n span => exact ⟨_, rfl, .ofNat n, rfl, Decimal.denotes_ofNat n⟩
  | @negation e _ _ span ih =>
    have inner := fun s hs => fits s (List.mem_cons_of_mem _ hs)
    obtain ⟨v, done, hv⟩ := ih inner
    obtain ⟨z, negated, hz⟩ := hv.neg (inner e e.mem_subtrees_self)
    refine ⟨z, ?_, hz⟩
    simp only [Tree.value, done]
    exact negated
  | @binary op left right _ _ _ _ span ihl ihr =>
    have first := fun s hs => fits s (List.mem_cons_of_mem _ (List.mem_append_left _ hs))
    have second := fun s hs => fits s (List.mem_cons_of_mem _ (List.mem_append_right _ hs))
    obtain ⟨v, done, hv⟩ := ihl first
    obtain ⟨w, done', hw⟩ := ihr second
    obtain ⟨z, operated, hz⟩ := hv.binary op hw (second right right.mem_subtrees_self)
      (fits _ (mem_subtrees_self _))
    refine ⟨z, ?_, hz⟩
    simp only [Tree.value, done, done']
    exact operated

end IntegerTree

namespace Line
variable {e : IntegerTree} {t : Text}

/-- A line that is an integer expression, whatever values it could refer to by words. -/
theorem evaluate_of_words {env : Environment} (words : Token.BeginLikeWords env.knownNames)
    (written : e.Written .sum t) (fits : ∀ s ∈ e.subtrees, s.value.natAbs < 10 ^ 50) :
    ∃ tokens o x, evaluate env env.knownNames t = .ok (tokens, some o)
      ∧ o.result = .number (.ofDecimal x) ∧ x.Denotes e.value := by
  obtain ⟨tokens, tree, scanned, derives, forms⟩ := written.derives_of_scan words
  obtain ⟨_, valued, x, rfl, denotes⟩ := forms.value env fits
  have result := Outcome.ofSteps_of_value valued
  rw [← Postfix.ofTokens_of_derives derives] at result
  refine ⟨tokens, ⟨.number (.ofDecimal x), false, tree.hasConversion, tree.hasOperation⟩, x, ?_,
    rfl, denotes⟩
  simp only [evaluate, scanned, Except.mapError, bind, Except.bind, result]
  rfl

/-- A line that is an integer expression, where no integer in it has more than fifty digits: its
result is the plain number that equals the integer. -/
theorem evaluate_written (written : e.Written .sum t)
    (fits : ∀ s ∈ e.subtrees, s.value.natAbs < 10 ^ 50) :
    let env : Environment := ⟨[(['s', 'u', 'm'], some .zero)], []⟩
    ∃ tokens o x, evaluate env env.knownNames t = .ok (tokens, some o)
      ∧ o.result = .number (.ofDecimal x) ∧ x.SameValue (.ofInt e.value) := by
  intro env
  have words : Token.BeginLikeWords env.knownNames := by
    intro n hn
    obtain rfl : n = ⟨['s', 'u', 'm'], false⟩ := by simpa [env, Environment.knownNames] using hn
    decide
  obtain ⟨tokens, o, x, evaluated, result, denotes⟩ := evaluate_of_words words written fits
  exact ⟨tokens, o, x, evaluated, result, denotes.sameValue (Decimal.denotes_ofInt e.value)⟩

/-- The result of `- 2 * (3 + 4)`. -/
theorem evaluate_written_product :
    let e : IntegerTree :=
      .binary .mul (.negation (.literal 2)) (.binary .add (.literal 3) (.literal 4))
    let t : Text := ['-', ' ', '2', ' ', '*', ' ', '(', '3', ' ', '+', ' ', '4', ')']
    let env : Environment := ⟨[(['s', 'u', 'm'], some .zero)], []⟩
    e.Written .sum t ∧ (∀ s ∈ e.subtrees, s.value.natAbs < 10 ^ 50) ∧
      ∃ tokens o x, evaluate env env.knownNames t = .ok (tokens, some o)
        ∧ o.result = .number (.ofDecimal x) ∧ x.SameValue (.ofInt (-14)) := by
  intro e t env
  have digit (c : Char) (decimal : Text.isDecimal c = true) :
      IntegerTree.Written .primary (.literal (Text.naturalOf [c])) [c] :=
    .literal (List.cons_ne_nil c []) (by simpa using decimal)
  have sum : IntegerTree.Written .sum (.binary .add (.literal 3) (.literal 4))
      ['3', ' ', '+', ' ', '4'] :=
    @IntegerTree.Written.binary .add _ _ ['3'] [' '] ['4']
      (.ofProduct (.ofSigned (.ofPrimary (digit '3' rfl)))) (List.forall_mem_singleton.2 rfl)
      (.ofSigned (.ofPrimary (digit '4' rfl)))
  have group : IntegerTree.Written .primary (.binary .add (.literal 3) (.literal 4))
      ['(', '3', ' ', '+', ' ', '4', ')'] :=
    .group (List.forall_mem_nil _) sum (List.forall_mem_nil _)
  have written : e.Written .sum t := .ofProduct
    (@IntegerTree.Written.binary .mul _ _ ['-', ' ', '2'] [' '] _
      (.ofSigned (.minus (.ofPrimary (digit '2' rfl)))) (List.forall_mem_singleton.2 rfl)
      (.ofPrimary group))
  have fits : ∀ s ∈ e.subtrees, s.value.natAbs < 10 ^ 50 := by decide
  exact ⟨written, fits, evaluate_written written fits⟩

end Line
end CalcSheet
