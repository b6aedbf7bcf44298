import CalcSheet.Proofs.Display.Shown
import CalcSheet.Proofs.Display.Texts
import CalcSheet.Proofs.Lists
import Mathlib.Order.Bounds.Basic

/-!
# Where the parts of a result stand

A text has three parts: what is before its point, the point with the fraction, and the unit from the
first space on. Of a displayed number, the first two are the numeral and the last one is the unit.
Aligned results have each part in columns of its own, as wide as the widest of these parts.
-/
namespace CalcSheet
namespace Widths

/-- A text with its three parts. The second begins with the first point of the text if no space is
before it, and the last one with the first space. -/
structure Splits (t whole fraction unit : Text) : Prop where
  eq : t = whole ++ (fraction ++ unit)
  whole : ∀ c ∈ whole, c ≠ '.' ∧ c ≠ ' '
  point : ∀ c ∈ fraction.head?, c = '.'
  fraction : ' ' ∉ fraction
  space : ∀ c ∈ unit.head?, c = ' '

/-- A number of spaces. -/
def blanks (n : Nat) : Text := List.replicate n ' '

/-- The text `u` is `t` with spaces before its first part and behind the others, so that the parts
fill columns of the given widths. -/
def Fills (w : Widths) (t u : Text) : Prop :=
  ∃ whole fraction unit a b c, Splits t whole fraction unit
    ∧ u = blanks a ++ whole ++ ((fraction ++ blanks b) ++ (unit ++ blanks c))
    ∧ a + whole.length = w.whole ∧ fraction.length + b = w.fraction ∧ unit.length + c = w.unit

/-- The text `u` has the parts of `t` in their columns: the point comes right behind those of the
first part, and the unit, from the first space of `t` on, right behind those of the second. -/
structure Aligned (w : Widths) (t u : Text) : Prop where
  length : u.length = w.whole + w.fraction + w.unit
  fills : w.Fills t u
  point : ∀ before after, t = before ++ '.' :: after → '.' ∉ before → ' ' ∉ before →
    u.take w.whole = blanks (w.whole - before.length) ++ before ∧ u[w.whole]? = some '.'
  unit : ∀ before after, t = before ++ ' ' :: after → ' ' ∉ before →
    ∃ c, u.drop (w.whole + w.fraction) = ' ' :: after ++ blanks c

/-- The lengths of one part in some texts, and zero. -/
def lengths (part : Widths → Nat) (ts : List Text) : Set Nat :=
  {n | n = 0 ∨ ∃ t ∈ ts, part (ofText t) = n}

/-- The largest length of each part in some texts, zero if there are none. -/
structure IsWidest (ts : List Text) (w : Widths) : Prop where
  whole : IsGreatest (lengths (·.whole) ts) w.whole
  fraction : IsGreatest (lengths (·.fraction) ts) w.fraction
  unit : IsGreatest (lengths (·.unit) ts) w.unit

variable {t u whole fraction unit : Text} {ts : List Text} {w : Widths}

/-! ### The parts of a text -/

theorem exists_splits (t : Text) : ∃ whole fraction unit, Splits t whole fraction unit := by
  let inWhole (c : Char) : Bool := c ≠ '.' && c ≠ ' '
  refine ⟨t.takeWhile inWhole, (t.dropWhile inWhole).takeWhile (· ≠ ' '),
    (t.dropWhile inWhole).dropWhile (· ≠ ' '), ?_, ?_, ?_, ?_, ?_⟩
  · rw [List.takeWhile_append_dropWhile, List.takeWhile_append_dropWhile]
  · intro c mem
    simpa [inWhole] using List.mem_takeWhile_imp mem
  · have stops := of_mem_head?_dropWhile inWhole t
    intro c first
    cases rest : t.dropWhile inWhole with
    | nil => simp [rest] at first
    | cons d ds =>
      by_cases space : d = ' '
      · simp [rest, space] at first
      · obtain rfl : d = c := by simpa [rest, space] using first
        simpa [inWhole, space] using stops d (by simp [rest])
  · intro mem
    simpa using List.mem_takeWhile_imp mem
  · intro c first
    simpa using of_mem_head?_dropWhile (· ≠ ' ') (t.dropWhile inWhole) c first

/-- A point with no space before it begins the second part. -/
theorem splits_of_point (before after : Text) (noPoint : '.' ∉ before) (noSpace : ' ' ∉ before) :
    Splits (before ++ '.' :: after) before ('.' :: after.takeWhile (· ≠ ' '))
      (after.dropWhile (· ≠ ' ')) := by
  refine ⟨?_, ?_, ?_, ?_, ?_⟩
  · rw [List.cons_append, List.takeWhile_append_dropWhile]
  · intro c mem
    constructor <;> rintro rfl
    exacts [noPoint mem, noSpace mem]
  · simp
  · intro mem
    rcases List.mem_cons.1 mem with same | mem
    · exact absurd same (by decide)
    · simpa using List.mem_takeWhile_imp mem
  · intro c first
    simpa using of_mem_head?_dropWhile (· ≠ ' ') after c first

/-- What begins with the first space is the last part. -/
theorem splits_of_space {front back : Text} (noSpace : ' ' ∉ front)
    (space : ∀ c ∈ back.head?, c = ' ') :
    Splits (front ++ back) (front.takeWhile (· ≠ '.')) (front.dropWhile (· ≠ '.')) back := by
  refine ⟨?_, ?_, ?_, ?_, space⟩
  · rw [← List.append_assoc, List.takeWhile_append_dropWhile]
  · intro c mem
    refine ⟨by simpa using List.mem_takeWhile_imp mem, ?_⟩
    rintro rfl
    exact noSpace (List.takeWhile_subset _ mem)
  · intro c first
    simpa using of_mem_head?_dropWhile (· ≠ '.') front c first
  · exact fun mem => noSpace (List.dropWhile_subset _ mem)

theorem Splits.ofText (h : Splits t whole fraction unit) :
    ofText t = ⟨whole.length, fraction.length, unit.length⟩ := by
  have first : t.takeWhile (fun c => c ≠ '.' && c ≠ ' ') = whole := by
    rw [h.eq]
    refine takeWhile_append_of_stop (fun c mem => by simpa using h.whole c mem) fun c head => ?_
    cases parts : fraction with
    | nil => simp [h.space c (by simpa [parts] using head)]
    | cons d ds =>
      obtain rfl : d = c := by simpa [parts] using head
      simp [h.point d (by simp [parts])]
  have second : (t.drop whole.length).takeWhile (· ≠ ' ') = fraction := by
    rw [h.eq, List.drop_left]
    refine takeWhile_append_of_stop (fun c mem => ?_) fun c head => by simp [h.space c head]
    exact decide_eq_true fun same => h.fraction (same ▸ mem)
  have total : t.length = whole.length + (fraction.length + unit.length) := by
    rw [h.eq, List.length_append, List.length_append]
  simp only [Widths.ofText, first, second, total]
  congr 1
  omega

/-- The lengths of the parts add up to that of the text. -/
theorem sum_ofText (t : Text) :
    (ofText t).whole + (ofText t).fraction + (ofText t).unit = t.length := by
  obtain ⟨whole, fraction, unit, splits⟩ := exists_splits t
  rw [splits.ofText, splits.eq, List.length_append, List.length_append, Nat.add_assoc]

/-- The last part begins behind a text without spaces. -/
theorem ofText_append {front back : Text} (noSpace : ' ' ∉ front)
    (space : ∀ c ∈ back.head?, c = ' ') :
    (ofText (front ++ back)).whole + (ofText (front ++ back)).fraction = front.length := by
  rw [(splits_of_space noSpace space).ofText, ← List.length_append,
    List.takeWhile_append_dropWhile]

/-! ### The widest parts -/

theorem ofText_nil : ofText [] = zero := rfl

theorem max_zero (w : Widths) : w.max zero = w := by
  obtain ⟨whole, fraction, unit⟩ := w
  simp [Widths.max, zero]

theorem ofTexts_concat (ts : List Text) (t : Text) :
    ofTexts (ts ++ [t]) = (ofTexts ts).max (ofText t) := List.foldl_concat ..

/-- Empty texts make no part wider. -/
theorem ofTexts_filter (ts : List Text) : ofTexts (ts.filter (!·.isEmpty)) = ofTexts ts := by
  induction ts using List.reverseRecOn with
  | nil => rfl
  | append_singleton ts t ih =>
    rw [List.filter_append, ofTexts_concat, ← ih]
    cases t with
    | nil => simp [ofText_nil, max_zero]
    | cons c t => exact ofTexts_concat _ _

theorem isGreatest_ofTexts {part : Widths → Nat} (none : part zero = 0)
    (larger : ∀ a b, part (a.max b) = Max.max (part a) (part b)) (ts : List Text) :
    IsGreatest (lengths part ts) (part (ofTexts ts)) := by
  induction ts using List.reverseRecOn with
  | nil =>
    refine ⟨.inl none, ?_⟩
    rintro n (rfl | ⟨t, mem, -⟩)
    · exact Nat.zero_le _
    · exact nomatch mem
  | append_singleton ts t ih =>
    rw [ofTexts_concat, larger]
    constructor
    · rcases Nat.le_total (part (ofTexts ts)) (part (ofText t)) with le | le
      · rw [Nat.max_eq_right le]
        exact .inr ⟨t, by simp, rfl⟩
      · rw [Nat.max_eq_left le]
        exact ih.1.imp_right fun ⟨u, mem, same⟩ => ⟨u, List.mem_append_left _ mem, same⟩
    · rintro n (rfl | ⟨u, mem, rfl⟩)
      · exact Nat.zero_le _
      · rcases List.mem_append.1 mem with mem | mem
        · exact Nat.le_trans (ih.2 (.inr ⟨u, mem, rfl⟩)) (Nat.le_max_left _ _)
        · obtain rfl := List.mem_singleton.1 mem
          exact Nat.le_max_right _ _

theorem isWidest_ofTexts (ts : List Text) : IsWidest ts (ofTexts ts) :=
  ⟨isGreatest_ofTexts rfl (fun _ _ => rfl) ts, isGreatest_ofTexts rfl (fun _ _ => rfl) ts,
    isGreatest_ofTexts rfl (fun _ _ => rfl) ts⟩

/-! ### Padding -/

theorem pad_eq (w : Widths) (h : Splits t whole fraction unit) :
    pad w t = blanks (w.whole - whole.length) ++ whole
      ++ ((fraction ++ blanks (w.fraction - fraction.length))
        ++ (unit ++ blanks (w.unit - unit.length))) := by
  have split : t = (whole ++ fraction) ++ unit := by rw [h.eq, List.append_assoc]
  have front : t.take (whole.length + fraction.length) = whole ++ fraction := by
    rw [split, ← List.length_append, List.take_left]
  have back : t.drop (whole.length + fraction.length) = unit := by
    rw [split, ← List.length_append, List.drop_left]
  simp only [pad, h.ofText, front, back, blanks, List.append_assoc]

theorem length_blanks (n : Nat) : (blanks n).length = n := List.length_replicate

/-- In wide enough columns each part comes to its own. -/
theorem IsWidest.aligned (h : IsWidest ts w) (mem : t ∈ ts) : w.Aligned t (pad w t) := by
  have fits {whole fraction unit : Text} (splits : Splits t whole fraction unit) :
      whole.length ≤ w.whole ∧ fraction.length ≤ w.fraction ∧ unit.length ≤ w.unit := by
    have part := splits.ofText
    exact ⟨h.whole.2 (.inr ⟨t, mem, by rw [part]⟩), h.fraction.2 (.inr ⟨t, mem, by rw [part]⟩),
      h.unit.2 (.inr ⟨t, mem, by rw [part]⟩)⟩
  have fills : w.Fills t (pad w t) := by
    obtain ⟨whole, fraction, unit, splits⟩ := exists_splits t
    obtain ⟨one, two, three⟩ := fits splits
    exact ⟨whole, fraction, unit, _, _, _, splits, pad_eq w splits, by omega, by omega, by omega⟩
  refine ⟨?_, fills, ?_, ?_⟩
  · obtain ⟨whole, fraction, unit, a, b, c, -, padded, one, two, three⟩ := fills
    simp only [padded, List.length_append, length_blanks]
    omega
  · rintro before after rfl noPoint noSpace
    have splits := splits_of_point before after noPoint noSpace
    obtain ⟨one, -, -⟩ := fits splits
    have column : (blanks (w.whole - before.length) ++ before).length = w.whole := by
      rw [List.length_append, length_blanks]
      omega
    rw [pad_eq w splits]
    constructor
    · exact List.take_left' column
    · rw [List.getElem?_append_right (Nat.le_of_eq column), column, Nat.sub_self]
      rfl
  · rintro before after rfl noSpace
    have splits : Splits (before ++ ' ' :: after) _ _ (' ' :: after) :=
      splits_of_space noSpace (by simp)
    obtain ⟨one, two, -⟩ := fits splits
    refine ⟨w.unit - (' ' :: after).length, ?_⟩
    rw [pad_eq w splits, ← List.append_assoc]
    refine List.drop_left' ?_
    simp only [List.length_append, length_blanks]
    omega

theorem align_eq (ts : List Text) :
    align ts = ts.map fun t => if t.isEmpty then [] else pad (ofTexts ts) t := by
  rw [align, ofTexts_filter]

end Widths

namespace Displayed
open Widths

/-- The space and the symbol behind a numeral, or nothing if there is no symbol. -/
def IsSuffix (unit? : Option PhysicalUnit) (t : Text) : Prop :=
  (t = [] ∧ ∀ u ∈ unit?, u.text = []) ∨ ∃ u ∈ unit?, u.text ≠ [] ∧ t = ' ' :: u.text

theorem isSuffix_of_unitSuffix {unit? : Option PhysicalUnit} {t : Text}
    (ended : unitSuffix unit? = .ok t) : IsSuffix unit? t := by
  cases unit? with
  | none =>
    obtain rfl := Except.ok.inj ended
    exact .inl ⟨rfl, by simp⟩
  | some u =>
    unfold unitSuffix at ended
    dsimp only at ended
    split at ended
    · obtain rfl := Except.ok.inj ended
      by_cases empty : u.text = []
      · exact .inl ⟨by simp [empty], by simpa using empty⟩
      · exact .inr ⟨u, rfl, empty, by simp [empty]⟩
    · cases ended

theorem IsSuffix.space {unit? : Option PhysicalUnit} {t : Text} (h : IsSuffix unit? t) :
    ∀ c ∈ t.head?, c = ' ' := by
  rcases h with ⟨rfl, -⟩ | ⟨u, -, -, rfl⟩ <;> simp

/-- The lengths found in a text are those of its parts and add up to its own, and in the text of a
number they tell the numeral from the unit. Aligned texts that are not empty have the same length,
with each part in its columns, and nothing but spaces is added. -/
theorem parts_in_columns :
    (∀ t, (ofText t).whole + (ofText t).fraction + (ofText t).unit = t.length
      ∧ ∃ whole fraction unit, Splits t whole fraction unit
        ∧ ofText t = ⟨whole.length, fraction.length, unit.length⟩)
    ∧ (∀ base converted places q t, number base converted places q = .ok t →
      let n := (ofText t).whole + (ofText t).fraction
      ∃ r, shownAs converted q = .ok r ∧ numeral base places r.value = .ok (t.take n)
        ∧ IsSuffix r.unit (t.drop n))
    ∧ ∀ ts, ∃ w, IsWidest ts w
      ∧ List.Forall₂ (fun t u => if t = [] then u = [] else w.Aligned t u) ts (align ts) := by
  refine ⟨fun t => ⟨sum_ofText t, ?_⟩, fun base converted places q t displayed => ?_, fun ts => ?_⟩
  · obtain ⟨whole, fraction, unit, splits⟩ := exists_splits t
    exact ⟨whole, fraction, unit, splits, splits.ofText⟩
  · rw [number_eq] at displayed
    obtain ⟨r, shown, displayed⟩ := bind_eq_ok displayed
    obtain ⟨digits, written, displayed⟩ := bind_eq_ok displayed
    obtain ⟨suffix, ended, rfl⟩ := map_eq_ok displayed
    have suffixed := isSuffix_of_unitSuffix ended
    have behind := ofText_append (space_not_mem_numeral written) suffixed.space
    refine ⟨r, mapError_eq_ok shown, ?_, ?_⟩
    · rwa [behind, List.take_left]
    · rwa [behind, List.drop_left]
  · have widest := isWidest_ofTexts ts
    refine ⟨ofTexts ts, widest, ?_⟩
    rw [align_eq, List.forall₂_map_right_iff, List.forall₂_same]
    intro t mem
    split
    · next empty => simp [empty]
    · next some =>
      rw [if_neg (by simpa using some)]
      exact widest.aligned mem

/-- A force of six newtons in base units, and two numbers, nothing and a length in columns. -/
theorem parts_in_columns_newtons :
    (∃ (u : PhysicalUnit) (r : Quantity), PhysicalUnit.parse "kg*m/s^2".toList = .ok u
      ∧ number .decimal false 4 ⟨.finite ⟨false, 6, 0⟩, some u⟩ = .ok "6 N".toList
      ∧ numeral .decimal 4 r.value = .ok ['6'] ∧ IsSuffix r.unit [' ', 'N'])
    ∧ ∃ w : Widths, IsWidest ["1.5".toList, "100".toList, [], "2.25 m".toList] w
      ∧ align ["1.5".toList, "100".toList, [], "2.25 m".toList]
        = ["  1.5   ".toList, "100     ".toList, [], "  2.25 m".toList]
      ∧ w.Aligned "1.5".toList "  1.5   ".toList ∧ w.Aligned "100".toList "100     ".toList
      ∧ w.Aligned "2.25 m".toList "  2.25 m".toList := by
  obtain ⟨-, numbers, columns⟩ := parts_in_columns
  constructor
  · obtain ⟨u, read, displayed⟩ : ∃ u, PhysicalUnit.parse "kg*m/s^2".toList = .ok u
        ∧ number .decimal false 4 ⟨.finite ⟨false, 6, 0⟩, some u⟩ = .ok "6 N".toList := by
      decide +kernel
    obtain ⟨r, -, digits, suffix⟩ := numbers _ _ _ _ _ displayed
    exact ⟨u, r, read, displayed, digits, suffix⟩
  · have padded : align ["1.5".toList, "100".toList, [], "2.25 m".toList]
        = ["  1.5   ".toList, "100     ".toList, [], "  2.25 m".toList] := by decide +kernel
    obtain ⟨w, widest, columns⟩ := columns ["1.5".toList, "100".toList, [], "2.25 m".toList]
    rw [padded] at columns
    cases columns with
    | cons first columns => cases columns with
      | cons second columns => cases columns with
        | cons _ columns => cases columns with
          | cons last _ => exact ⟨w, widest, padded, first, second, last⟩

end Displayed
end CalcSheet
