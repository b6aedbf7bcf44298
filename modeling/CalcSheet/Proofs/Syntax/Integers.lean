import CalcSheet.Proofs.Syntax.Grammar
import CalcSheet.Proofs.Text.Numerals

/-!
# Integer expressions

Sums, differences, products and opposites of natural numbers: what integer such an expression
stands for, and the ways to write it.
-/
namespace CalcSheet

/-- The operators that lead from integers to integers. -/
inductive RingOp where
  | add
  | sub
  | mul
  deriving DecidableEq, Repr

namespace RingOp

def toBinaryOp : RingOp → BinaryOp
  | add => .add
  | sub => .sub
  | mul => .mul

def apply : RingOp → Int → Int → Int
  | add, m, n => m + n
  | sub, m, n => m - n
  | mul, m, n => m * n

/-- The least tight category whose expressions may stand on the left of the operator. -/
def leftCategory : RingOp → Category
  | add | sub => .sum
  | mul => .product

/-- The least tight category whose expressions may stand on the right of the operator. -/
def rightCategory : RingOp → Category
  | add | sub => .product
  | mul => .signed

end RingOp

/-- An integer expression. Parentheses are no part of it. -/
inductive IntegerTree where
  | literal (n : Nat)
  | negation (e : IntegerTree)
  | binary (op : RingOp) (left right : IntegerTree)
  deriving DecidableEq, Repr

namespace IntegerTree

/-- The integer that an expression stands for. -/
def value : IntegerTree → Int
  | literal n => n
  | negation e => -e.value
  | binary op left right => op.apply left.value right.value

/-- An expression and all expressions inside it. -/
def subtrees : IntegerTree → List IntegerTree
  | literal n => [literal n]
  | negation e => negation e :: e.subtrees
  | binary op left right => binary op left right :: (left.subtrees ++ right.subtrees)

theorem mem_subtrees_self (e : IntegerTree) : e ∈ e.subtrees := by
  cases e <;> simp [subtrees]

/-- How an expression of a category is written. There are parentheses where the category is tighter
than that of the expression, and there may be more of them. One space follows each sign; other
white space is free, but for the ends of the text. A number may have zeros in front, and the digits
of any script. -/
inductive Written : Category → IntegerTree → Text → Prop
  | literal {digits : Text} (nonempty : digits ≠ [])
      (decimal : ∀ c ∈ digits, Text.isDecimal c = true) :
      Written .primary (.literal (Text.naturalOf digits)) digits
  | group {e : IntegerTree} {gap t gap' : Text} (blank : ∀ c ∈ gap, Text.isBlank c = true)
      (inner : Written .sum e t) (blank' : ∀ c ∈ gap', Text.isBlank c = true) :
      Written .primary e ('(' :: (gap ++ (t ++ (gap' ++ [')']))))
  | ofPrimary {e : IntegerTree} {t : Text} (h : Written .primary e t) : Written .signed e t
  | minus {e : IntegerTree} {t : Text} (h : Written .signed e t) :
      Written .signed (.negation e) ('-' :: ' ' :: t)
  | ofSigned {e : IntegerTree} {t : Text} (h : Written .signed e t) : Written .product e t
  | ofProduct {e : IntegerTree} {t : Text} (h : Written .product e t) : Written .sum e t
  | binary {op : RingOp} {left right : IntegerTree} {t gap u : Text}
      (l : Written op.leftCategory left t) (blank : ∀ c ∈ gap, Text.isBlank c = true)
      (r : Written op.rightCategory right u) :
      Written op.leftCategory (.binary op left right)
        (t ++ (gap ++ op.toBinaryOp.symbol :: ' ' :: u))

namespace Written
variable {e : IntegerTree} {t : Text}

theorem ofPrimary_left (h : Written .primary e t) (op : RingOp) : Written op.leftCategory e t := by
  cases op with
  | add | sub => exact .ofProduct (.ofSigned (.ofPrimary h))
  | mul => exact .ofSigned (.ofPrimary h)

theorem ofPrimary_right (h : Written .primary e t) (op : RingOp) :
    Written op.rightCategory e t := by
  cases op with
  | add | sub => exact .ofSigned (.ofPrimary h)
  | mul => exact .ofPrimary h

theorem sum_of_left {op : RingOp} (h : Written op.leftCategory e t) : Written .sum e t := by
  cases op with
  | add | sub => exact h
  | mul => exact .ofProduct h

end Written

/-- Every expression can be written, wherever it stands. -/
theorem exists_written (e : IntegerTree) : ∃ t, Written .primary e t := by
  have grouped {e : IntegerTree} {t : Text} (h : Written .sum e t) : ∃ t, Written .primary e t :=
    ⟨_, .group (List.forall_mem_nil _) h (List.forall_mem_nil _)⟩
  induction e with
  | literal n =>
    have literal := Written.literal (Digits.text_ne_nil 10 n)
      fun c hc => Digits.isDecimal_of_isDigit (Digits.isDigit_of_mem_text hc)
    rw [Digits.naturalOf_text] at literal
    exact ⟨_, literal⟩
  | negation e ih =>
    obtain ⟨t, ht⟩ := ih
    exact grouped (.ofProduct (.ofSigned (.minus (.ofPrimary ht))))
  | binary op left right ihl ihr =>
    obtain ⟨t, ht⟩ := ihl
    obtain ⟨u, hu⟩ := ihr
    have written := Written.binary (ht.ofPrimary_left op) (List.forall_mem_nil _)
      (hu.ofPrimary_right op)
    exact grouped written.sum_of_left

/-- The trees of an expression, which differ in their spans only. -/
inductive Forms : IntegerTree → Tree → Prop
  | literal (n : Nat) (span : Span) : Forms (.literal n) (.operand (.number (.ofNat n)) span)
  | negation {e : IntegerTree} {tree : Tree} (h : Forms e tree) (span : Span) :
      Forms (.negation e) (.negation tree span)
  | binary {op : RingOp} {left right : IntegerTree} {l r : Tree} (hl : Forms left l)
      (hr : Forms right r) (span : Span) :
      Forms (.binary op left right) (.binary op.toBinaryOp l r span)

end IntegerTree

/-- The operators as the grammar puts them between expressions. -/
theorem Derives.ringOp {op : RingOp} {t : Token} {ls rs : List Token} {left right : Tree}
    (l : Derives op.leftCategory ls left) (token : t.lexeme = .operator op.toBinaryOp)
    (r : Derives op.rightCategory rs right) :
    Derives op.leftCategory (ls ++ t :: rs) (.binary op.toBinaryOp left right t.span) := by
  cases op with
  | add => exact .add l (.inl rfl) token r
  | sub => exact .add l (.inr rfl) token r
  | mul => exact .multiply l (.inl rfl) token (.ofSigned r)

end CalcSheet
