import CalcSheet.Proofs.Syntax.Tree

/-!
# The grammar of lines

Which token lists stand for which trees. Each category is a level of precedence: units bind
tightest, then signs, powers to the right, products and quotients to the left, sums to the left,
and conversions last. Two operands side by side are a product.
-/
namespace CalcSheet

/-- Levels of precedence, the tightest first. -/
inductive Category where
  | primary
  | quantity
  | signed
  | power
  | product
  | sum
  | whole
  deriving DecidableEq, Repr

/-- Lists of tokens one after the other, with a token of a given kind between each two. -/
inductive Separated (separator : Lexeme) : List (List Token) → List Token → Prop
  | single (ts : List Token) : Separated separator [ts] ts
  | cons (ts : List Token) {t : Token} {tss : List (List Token)} {rest : List Token}
      (between : t.lexeme = separator) (later : Separated separator tss rest) :
      Separated separator (ts :: tss) (ts ++ t :: rest)

/-- Tokens with which an operand begins that is multiplied with the one before it. -/
def Lexeme.BeginsFactor : Lexeme → Prop
  | .operand _ | .opening _ => True
  | _ => False

/-- The token lists of each category and the trees that they stand for. Brackets and plus signs
leave no trace in the tree. -/
inductive Derives : Category → List Token → Tree → Prop
  | operand {t : Token} {o : Operand} (token : t.lexeme = .operand o) :
      Derives .primary [t] (.operand o t.span)
  | group {opening closing : Token} {b : Bracket} {ts : List Token} {e : Tree}
      (begins : opening.lexeme = .opening b) (inner : Derives .whole ts e)
      (ends : closing.lexeme = .closing b) :
      Derives .primary (opening :: ts ++ [closing]) e
  | matrix {opening closing : Token} {rows cols : Nat} {cells : Fin rows → Fin cols → Tree}
      {cell : Fin rows → Fin cols → List Token} {row : Fin rows → List Token} {ts : List Token}
      (begins : opening.lexeme = .opening .square) (size : 2 ≤ rows * cols)
      (inner : ∀ i j, Derives .whole (cell i j) (cells i j))
      (commas : ∀ i, Separated .comma (List.ofFn (cell i)) (row i))
      (semicolons : Separated .semicolon (List.ofFn row) ts)
      (ends : closing.lexeme = .closing .square) :
      Derives .primary (opening :: ts ++ [closing])
        (.matrix rows cols cells ⟨some opening.start, none⟩)
  | ofPrimary {ts : List Token} {e : Tree} (h : Derives .primary ts e) : Derives .quantity ts e
  | unit {t : Token} {u : Option PhysicalUnit} {ts : List Token} {e : Tree}
      (h : Derives .quantity ts e) (token : t.lexeme = .unit u) :
      Derives .quantity (ts ++ [t]) (.attachment e u t.span)
  | ofQuantity {ts : List Token} {e : Tree} (h : Derives .quantity ts e) : Derives .signed ts e
  | minus {t : Token} {ts : List Token} {e : Tree} (token : t.lexeme = .operator .sub)
      (h : Derives .signed ts e) : Derives .signed (t :: ts) (.negation e t.span)
  | plus {t : Token} {ts : List Token} {e : Tree} (token : t.lexeme = .operator .add)
      (h : Derives .signed ts e) : Derives .signed (t :: ts) e
  | ofSigned {ts : List Token} {e : Tree} (h : Derives .signed ts e) : Derives .power ts e
  | raise {t : Token} {ls rs : List Token} {left right : Tree} (l : Derives .signed ls left)
      (token : t.lexeme = .operator .pow) (r : Derives .power rs right) :
      Derives .power (ls ++ t :: rs) (.binary .pow left right t.span)
  | ofPower {ts : List Token} {e : Tree} (h : Derives .power ts e) : Derives .product ts e
  | multiply {t : Token} {op : BinaryOp} {ls rs : List Token} {left right : Tree}
      (l : Derives .product ls left) (kind : op = .mul ∨ op = .div)
      (token : t.lexeme = .operator op) (r : Derives .power rs right) :
      Derives .product (ls ++ t :: rs) (.binary op left right t.span)
  | juxtapose {ls rs : List Token} {left right : Tree} (l : Derives .product ls left)
      (begins : ∀ t ∈ rs.head?, t.lexeme.BeginsFactor) (r : Derives .power rs right) :
      Derives .product (ls ++ rs) (.binary .mul left right .absent)
  | ofProduct {ts : List Token} {e : Tree} (h : Derives .product ts e) : Derives .sum ts e
  | add {t : Token} {op : BinaryOp} {ls rs : List Token} {left right : Tree}
      (l : Derives .sum ls left) (kind : op = .add ∨ op = .sub)
      (token : t.lexeme = .operator op) (r : Derives .product rs right) :
      Derives .sum (ls ++ t :: rs) (.binary op left right t.span)
  | ofSum {ts : List Token} {e : Tree} (h : Derives .sum ts e) : Derives .whole ts e
  | convert {t : Token} {u : Option PhysicalUnit} {ts : List Token} {e : Tree}
      (h : Derives .whole ts e) (token : t.lexeme = .conversion u) :
      Derives .whole (ts ++ [t]) (.conversion e u t.span)

/-- The token lists of lines, with the tree and the place of the equals sign in an assignment. -/
inductive DerivesLine : List Token → Tree → Option Span → Prop
  | expression {ts : List Token} {e : Tree} (h : Derives .whole ts e) : DerivesLine ts e none
  | assignment {target equals : Token} {name : Text} {ts : List Token} {e : Tree}
      (name : target.lexeme = .operand (.variable name)) (sign : equals.lexeme = .assign)
      (h : Derives .whole ts e) : DerivesLine (target :: equals :: ts) e (some equals.span)

namespace Derives

theorem ne_nil {c : Category} {ts : List Token} {e : Tree} (h : Derives c ts e) : ts ≠ [] := by
  induction h with
  | ofPrimary _ ih | ofQuantity _ ih | ofSigned _ ih | ofPower _ ih | ofProduct _ ih
  | ofSum _ ih => exact ih
  | _ => simp_all

end Derives
end CalcSheet
