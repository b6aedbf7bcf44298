import CalcSheet.Proofs.Text.Numerals
import CalcSheet.Proofs.Text.References

/-!
# Texts with other references

Two texts that differ in nothing but the numbers in their references are alike up to the first
reference, so whatever is read without crossing the sign of a reference is the same in both.
-/
namespace CalcSheet.Reference

def Piece.rewritten (f : Nat → Nat) : Piece → Text
  | .char c => [c]
  | .reference digits => Reference.text (f (Text.naturalOf digits))

/-- The text with another number in each of its references. -/
def rewritten (f : Nat → Nat) (t : Text) : Text := (pieces t).flatMap (Piece.rewritten f)

variable {f : Nat → Nat} {t t' : Text} {n : Nat}

theorem rewritten_cons_of_match?_none {c : Char} (h : match? (c :: t) = none) :
    rewritten f (c :: t) = c :: rewritten f t := by
  simp [rewritten, pieces_cons_of_match?_none h, Piece.rewritten]

theorem rewritten_of_match?_some {digits : Text} (h : match? t = some digits) :
    rewritten f t
      = Reference.text (f (Text.naturalOf digits)) ++ rewritten f (t.drop (digits.length + 3)) := by
  simp [rewritten, pieces_of_match?_some h, Piece.rewritten]

theorem rewritten_cons_of_ne {c : Char} (h : c ≠ '&') : rewritten f (c :: t) = c :: rewritten f t :=
  rewritten_cons_of_match?_none (match?_eq_none_of_ne (by simpa using h))

theorem text_natCast (n : Nat) : Reference.text n = written (Digits.text 10 n) := by
  have : ¬ ((n : Int) < 0) := by omega
  simp [Reference.text, Digits.signed, this]

/-- Rewriting breaks no line in two. -/
theorem newline_not_mem_rewritten (h : '\n' ∉ t) : '\n' ∉ rewritten f t := by
  have pieces : (pieces t).flatMap Piece.text = t := flatMap_text_pieces t
  intro mem
  obtain ⟨piece, hp, mem⟩ := List.mem_flatMap.1 mem
  cases piece with
  | char c =>
    refine h (pieces ▸ List.mem_flatMap.2 ⟨_, hp, ?_⟩)
    simpa [Piece.text, Piece.rewritten] using mem
  | reference digits =>
    rw [Piece.rewritten, text_natCast, written] at mem
    simp only [List.cons_append, List.mem_cons, List.mem_append, List.not_mem_nil, or_false] at mem
    rcases mem with mem | mem | mem | mem
    · exact absurd mem (by decide)
    · exact absurd mem (by decide)
    · exact absurd (Digits.isDigit_of_mem_text mem) (by decide)
    · exact absurd mem (by decide)

/-- The first `n` characters of a text are there, and no reference begins among them. -/
structure Free (t : Text) (n : Nat) : Prop where
  le_length : n ≤ t.length
  not_mem : '&' ∉ t.take n

namespace Free

theorem zero (t : Text) : Free t 0 := ⟨Nat.zero_le _, by simp⟩

theorem cons {c : Char} (h : c ≠ '&') (free : Free t n) : Free (c :: t) (n + 1) :=
  ⟨by simpa using free.le_length, by simpa [Ne.symm h] using free.not_mem⟩

theorem mono {m : Nat} (free : Free t n) (le : m ≤ n) : Free t m :=
  ⟨Nat.le_trans le free.le_length,
    fun mem => free.not_mem ((List.take_prefix_take_left le).mem mem)⟩

theorem add {m : Nat} (first : Free t m) (second : Free (t.drop m) n) : Free t (m + n) := by
  have length := second.le_length
  rw [List.length_drop] at length
  refine ⟨by have := first.le_length; omega, ?_⟩
  rw [List.take_add, List.mem_append, not_or]
  exact ⟨first.not_mem, second.not_mem⟩

theorem takeWhile {p : Char → Bool} (h : p '&' = false) (t : Text) :
    Free t (t.takeWhile p).length := by
  refine ⟨(List.takeWhile_sublist p).length_le, ?_⟩
  rw [List.prefix_iff_eq_take.1 (List.takeWhile_prefix p) |>.symm]
  intro mem
  have := List.all_eq_true.1 List.all_takeWhile _ mem
  rw [h] at this
  exact Bool.false_ne_true this

theorem of_isPrefixOf {u : Text} (h : u.isPrefixOf t = true) (free : '&' ∉ u) :
    Free t u.length := by
  have before := List.isPrefixOf_iff_prefix.1 h
  exact ⟨before.length_le, by rwa [← List.prefix_iff_eq_take.1 before]⟩

/-- Rewriting changes nothing before the first reference. -/
theorem rewritten_eq (free : Free t n) :
    rewritten f t = t.take n ++ rewritten f (t.drop n) := by
  induction n generalizing t with
  | zero => simp
  | succ n ih =>
    cases t with
    | nil => exact absurd free.le_length (by simp)
    | cons c t =>
      have mem := free.not_mem
      simp only [List.take_succ_cons, List.mem_cons, not_or] at mem
      have rest : Free t n := ⟨by simpa using free.le_length, mem.2⟩
      rw [rewritten_cons_of_ne (Ne.symm mem.1), ih rest]
      rfl

/-- The references of the rest are references of the text. -/
theorem mem_pieces {piece : Piece} (free : Free t n) (mem : piece ∈ pieces (t.drop n)) :
    piece ∈ pieces t := by
  induction n generalizing t with
  | zero => simpa using mem
  | succ n ih =>
    cases t with
    | nil => exact absurd free.le_length (by simp)
    | cons c t =>
      have taken := free.not_mem
      simp only [List.take_succ_cons, List.mem_cons, not_or] at taken
      have other : match? (c :: t) = none :=
        match?_eq_none_of_ne (by simpa using Ne.symm taken.1)
      rw [pieces_cons_of_match?_none other]
      exact List.mem_cons_of_mem _ (ih ⟨by simpa using free.le_length, taken.2⟩ mem)

end Free

/-- Texts that are the same up to a place where both go on with the sign of a reference. -/
inductive Alike : Text → Text → Prop where
  | nil : Alike [] []
  | sign (t t' : Text) : Alike ('&' :: t) ('&' :: t')
  | cons (c : Char) {t t' : Text} : Alike t t' → Alike (c :: t) (c :: t')

namespace Alike

theorem rewritten (f : Nat → Nat) (t : Text) : Alike t (rewritten f t) := by
  induction t with
  | nil => exact .nil
  | cons c t ih =>
    cases found : match? (c :: t) with
    | none =>
      rw [rewritten_cons_of_match?_none found]
      exact .cons c ih
    | some digits =>
      have head : c = '&' := by
        by_contra other
        rw [match?_eq_none_of_ne (by simpa using other)] at found
        exact nomatch found
      rw [rewritten_of_match?_some found, head]
      exact .sign _ _

theorem symm (h : Alike t t') : Alike t' t := by
  induction h with
  | nil => exact .nil
  | sign t t' => exact .sign t' t
  | cons c h ih => exact .cons c ih

theorem head?_eq (h : Alike t t') : t.head? = t'.head? := by
  cases h <;> rfl

theorem takeWhile_eq {p : Char → Bool} (reject : p '&' = false) (h : Alike t t') :
    t.takeWhile p = t'.takeWhile p := by
  induction h with
  | nil => rfl
  | sign => simp [reject]
  | cons c h ih => simp only [List.takeWhile_cons, ih]

theorem take_drop (h : Alike t t') (free : Free t n) :
    t.take n = t'.take n ∧ Alike (t.drop n) (t'.drop n) := by
  induction h generalizing n with
  | nil => simpa using Alike.nil
  | sign t t' =>
    cases n with
    | zero => exact ⟨rfl, .sign t t'⟩
    | succ n => exact absurd free.not_mem (by simp)
  | cons c h ih =>
    cases n with
    | zero => exact ⟨rfl, .cons c h⟩
    | succ n =>
      have mem := free.not_mem
      simp only [List.take_succ_cons, List.mem_cons, not_or] at mem
      obtain ⟨take, drop⟩ := ih ⟨by simpa using free.le_length, mem.2⟩
      exact ⟨by rw [List.take_succ_cons, List.take_succ_cons, take], drop⟩

theorem drop (h : Alike t t') (free : Free t n) : Alike (t.drop n) (t'.drop n) :=
  (h.take_drop free).2

theorem take_eq (h : Alike t t') (free : Free t n) : t.take n = t'.take n := (h.take_drop free).1

theorem exists_cons {c : Char} (h : Alike (c :: t) t') (other : c ≠ '&') :
    ∃ u, t' = c :: u ∧ Alike t u := by
  cases h with
  | sign => exact absurd rfl other
  | cons _ h => exact ⟨_, rfl, h⟩

theorem drop_takeWhile {p : Char → Bool} (reject : p '&' = false) (h : Alike t t') :
    Alike (t.drop (t.takeWhile p).length) (t'.drop (t.takeWhile p).length) :=
  h.drop (.takeWhile reject t)

/-- The last of the characters before which the texts are the same. -/
theorem getElem?_pred (h : Alike t t') (free : Free t n) (pos : 0 < n) :
    t[n - 1]? = t'[n - 1]? := by
  have last : n - 1 < n := Nat.sub_lt pos Nat.one_pos
  rw [← List.getElem?_take_of_lt last, h.take_eq free, List.getElem?_take_of_lt last]

theorem isPrefixOf_eq {u : Text} (free : '&' ∉ u) (h : Alike t t') :
    u.isPrefixOf t = u.isPrefixOf t' := by
  induction h generalizing u with
  | nil => rfl
  | sign t t' =>
    cases u with
    | nil => rfl
    | cons c u =>
      have other : c ≠ '&' := by
        rintro rfl
        exact free List.mem_cons_self
      have : (c == '&') = false := by simpa using other
      simp only [List.isPrefixOf_cons_cons, this, Bool.false_and]
  | cons c h ih =>
    cases u with
    | nil => rfl
    | cons d u =>
      have rest : '&' ∉ u := fun mem => free (List.mem_cons_of_mem _ mem)
      simp only [List.isPrefixOf_cons_cons, ih rest]

/-- Whether a reference begins depends on nothing beyond the next sign. -/
theorem match?_sign (h : Alike t t') : match? ('&' :: t) = match? ('&' :: t') := by
  cases h with
  | nil => rfl
  | sign => rfl
  | cons c h =>
    by_cases bracket : c = '['
    · subst bracket
      have digits := h.takeWhile_eq (p := Text.isDecimal) (by rfl)
      have rest := h.drop_takeWhile (p := Text.isDecimal) (by rfl)
      simp only [match?, ← digits, rest.head?_eq]
    · simp [match?, bracket]

end Alike
end CalcSheet.Reference
