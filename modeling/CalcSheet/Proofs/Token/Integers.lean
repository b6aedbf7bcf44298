import CalcSheet.Proofs.Syntax.Integers
import CalcSheet.Proofs.Token.Parts

/-!
# Scanning integer expressions

However an integer expression is written, its tokens stand for a tree of its form.
-/
namespace CalcSheet
namespace IntegerTree.Written
open Token

variable {names : List KnownName} {category : Category} {e : IntegerTree} {t after : Text}

/-- An expression begins with a digit, a parenthesis or a minus sign with a space behind it. -/
theorem begins (h : Written category e t) : ∃ c rest, t = c :: rest ∧
    (Text.isDecimal c = true ∨ c = '(' ∨ c = '-' ∧ rest.head? = some ' ') := by
  induction h with
  | literal nonempty decimal =>
    obtain ⟨c, digits, rfl⟩ := List.exists_cons_of_ne_nil nonempty
    exact ⟨c, digits, rfl, .inl (decimal c List.mem_cons_self)⟩
  | group => exact ⟨_, _, rfl, .inr (.inl rfl)⟩
  | minus => exact ⟨_, _, rfl, .inr (.inr ⟨rfl, rfl⟩)⟩
  | ofPrimary _ ih | ofSigned _ ih | ofProduct _ ih => exact ih
  | binary _ _ _ ih =>
    obtain ⟨c, rest, rfl, kind⟩ := ih
    refine ⟨c, rest ++ _, rfl, kind.imp_right fun kind => kind.imp_right fun ⟨dash, space⟩ => ?_⟩
    exact ⟨dash, by rw [List.head?_append, space]; rfl⟩

theorem isBlank_head (h : Written category e t) (after : Text) :
    ∀ c ∈ (t ++ after).head?, Text.isBlank c = false := by
  obtain ⟨c, rest, rfl, kind⟩ := h.begins
  intro d hd
  obtain rfl : c = d := by simpa using hd
  rcases kind with decimal | rfl | ⟨rfl, -⟩
  · exact Text.isBlank_of_isDecimal decimal
  · decide
  · decide

/-- The sign of an operator is scanned as the operator. -/
theorem operator?_symbol (op : RingOp) :
    operator? op.toBinaryOp.symbol = some (.operator op.toBinaryOp) := by
  cases op <;> rfl

/-- A text is scanned into tokens that stand for a tree of the form of an expression. -/
def ScansAs (names : List KnownName) (category : Category) (e : IntegerTree) (t after : Text) :
    Prop :=
  Scans names t after fun tokens => ∃ tree, Derives category tokens tree ∧ Forms e tree

theorem scansAs_group {gap gap' : Text} (words : BeginLikeWords names)
    (blank : ∀ c ∈ gap, Text.isBlank c = true) (blank' : ∀ c ∈ gap', Text.isBlank c = true)
    (h : Written .sum e t) (inner : ScansAs names .sum e t (gap' ++ [')'] ++ after)) :
    ScansAs names .primary e ('(' :: (gap ++ (t ++ (gap' ++ [')'])))) after := by
  have closing : Scans names [')'] after _ := .sign words rfl
  have behind : Scans names (gap' ++ [')']) after _ := closing.spaced blank' (by simp; decide)
  have inside : Scans names (t ++ (gap' ++ [')'])) after _ := Scans.append inner behind
  have spaced : Scans names (gap ++ (t ++ (gap' ++ [')']))) after _ :=
    inside.spaced blank (by rw [List.append_assoc]; exact h.isBlank_head _)
  have all : Scans names (['('] ++ (gap ++ (t ++ (gap' ++ [')'])))) after _ :=
    (Scans.sign words rfl).append spaced
  -- the tokens of the parts in their order; the gaps have left none
  refine all.mono ?_
  rintro _ ⟨_, _, rfl, ⟨opening, begins, rfl⟩, ts, _, rfl, ⟨tree, derives, forms⟩,
    closing, ends, rfl⟩
  exact ⟨tree, .group begins (.ofSum derives) ends, forms⟩

theorem scansAs_minus (words : BeginLikeWords names) (h : Written .signed e t)
    (operand : ScansAs names .signed e t after) :
    ScansAs names .signed (.negation e) ('-' :: ' ' :: t) after := by
  have behind : Scans names ([' '] ++ t) after _ :=
    Scans.spaced operand (List.forall_mem_singleton.2 rfl) (h.isBlank_head after)
  have all : Scans names (['-'] ++ ([' '] ++ t)) after _ := (Scans.sign words rfl).append behind
  refine all.mono ?_
  rintro _ ⟨_, ts, rfl, ⟨token, dash, rfl⟩, tree, derives, forms⟩
  exact ⟨_, .minus dash derives, .negation forms _⟩

theorem scansAs_binary {op : RingOp} {left right : IntegerTree} {gap u : Text}
    (words : BeginLikeWords names) (blank : ∀ c ∈ gap, Text.isBlank c = true)
    (h : Written op.rightCategory right u)
    (l : ScansAs names op.leftCategory left t
      (gap ++ op.toBinaryOp.symbol :: ' ' :: u ++ after))
    (r : ScansAs names op.rightCategory right u after) :
    ScansAs names op.leftCategory (.binary op left right)
      (t ++ (gap ++ op.toBinaryOp.symbol :: ' ' :: u)) after := by
  have sign := operator?_symbol op
  generalize op.toBinaryOp.symbol = symbol at sign l ⊢
  have last : Scans names ([' '] ++ u) after _ :=
    Scans.spaced r (List.forall_mem_singleton.2 rfl) (h.isBlank_head after)
  have behind : Scans names ([symbol] ++ ([' '] ++ u)) after _ :=
    (Scans.sign words sign).append last
  have spaced : Scans names (gap ++ ([symbol] ++ ([' '] ++ u))) after _ :=
    behind.spaced blank (by simp [(of_operator? sign).1])
  have all : Scans names (t ++ (gap ++ ([symbol] ++ ([' '] ++ u)))) after _ :=
    Scans.append l spaced
  refine all.mono ?_
  rintro _ ⟨ls, _, rfl, ⟨left, derives, forms⟩, _, rs, rfl, ⟨token, operator, rfl⟩,
    right, derives', forms'⟩
  exact ⟨_, derives.ringOp operator derives', .binary forms forms' _⟩

/-- An expression is scanned into tokens that stand for a tree of its form. -/
theorem scansAs (words : BeginLikeWords names) (h : Written category e t) (ends : Ends after) :
    ScansAs names category e t after := by
  induction h generalizing after with
  | literal nonempty decimal =>
    refine (Scans.numeral words nonempty decimal ends).mono ?_
    rintro _ ⟨token, lexeme, rfl⟩
    exact ⟨_, .operand lexeme, .literal _ _⟩
  | @group _ _ _ gap' blank inner blank' ih =>
    have stop : Ends (gap' ++ [')'] ++ after) := by
      rw [List.append_assoc]
      exact ends_append blank' (c := ')') rfl
    exact scansAs_group words blank blank' inner (ih stop)
  | ofPrimary _ ih =>
    refine (ih ends).mono fun tokens ⟨tree, derives, forms⟩ => ?_
    exact ⟨tree, .ofQuantity (.ofPrimary derives), forms⟩
  | minus h ih => exact scansAs_minus words h (ih ends)
  | ofSigned _ ih =>
    refine (ih ends).mono fun tokens ⟨tree, derives, forms⟩ => ?_
    exact ⟨tree, .ofPower (.ofSigned derives), forms⟩
  | ofProduct _ ih =>
    refine (ih ends).mono fun tokens ⟨tree, derives, forms⟩ => ?_
    exact ⟨tree, .ofProduct derives, forms⟩
  | @binary op _ _ _ gap u _ blank r ihl ihr =>
    have stop : Ends (gap ++ op.toBinaryOp.symbol :: ' ' :: u ++ after) := by
      rw [List.append_assoc]
      exact ends_append blank (operator?_symbol op)
    exact scansAs_binary words blank r (ihl stop) (ihr ends)

/-- A line that is an expression neither assigns nor is left out of the calculation. -/
theorem scan_eq (h : Written category e t) :
    scan t names = scanFrom (longestFirst names) t.length false none 0 t := by
  obtain ⟨c, rest, rfl, kind⟩ := h.begins
  have noName : Text.isNameChar c = false := by
    rcases kind with decimal | rfl | ⟨rfl, -⟩
    · exact isNameChar_of_isDecimal decimal
    · decide
    · decide
  have ink : Text.isBlank c = false := h.isBlank_head [] c (by simp)
  have calculated : isTextLine (c :: rest) = false := by
    rcases kind with decimal | rfl | ⟨rfl, space⟩
    · have dash : c ≠ '-' := by
        rintro rfl
        exact absurd decimal (by decide)
      have quote : c ≠ '\'' := by
        rintro rfl
        exact absurd decimal (by decide)
      simp [isTextLine, restartsSum, isComment, List.isPrefixOf, dash.symm, quote.symm]
    · rfl
    · obtain ⟨rest, rfl⟩ := List.head?_eq_some_iff.1 space
      rfl
  have expression : Assignment.parse? (c :: rest) = none := by
    simp [Assignment.parse?, ink, noName]
  rw [scan, calculated, expression]
  rfl

/-- The tokens of a line that is an expression stand for a tree of its form. -/
theorem derives_of_scan (words : BeginLikeWords names) (h : Written .sum e t) : ∃ tokens tree,
    scan t names = .ok tokens
      ∧ Derives .whole (tokens.filter (!·.lexeme.isBlank)) tree ∧ Forms e tree := by
  have sorted : BeginLikeWords (longestFirst names) := fun n hn => words n (mem_longestFirst.1 hn)
  have ends : Ends [] := fun _ none => nomatch none
  obtain ⟨tokens, s, advances, -, ended, tree, derives, forms⟩ :=
    h.scansAs sorted ends ⟨false, none, 0, t⟩ rfl (List.append_nil t).symm
  refine ⟨tokens, tree, ?_, .ofSum derives, forms⟩
  rw [h.scan_eq]
  exact advances.scanFrom ended (Nat.le_refl _)

end IntegerTree.Written
end CalcSheet
