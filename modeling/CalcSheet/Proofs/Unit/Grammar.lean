import CalcSheet.Proofs.Lists
import CalcSheet.Unit.Expression

/-!
# The grammar of terms

How a name with an exponent is written, and that a term is read as far as it goes: a name takes all
name characters, and an exponent all digits.
-/
namespace CalcSheet.PhysicalUnit

variable {t rest : Text} {e : WrittenExponent} {term : Term}

/-! ### Exponents -/

namespace WrittenExponent

/-- The characters of an exponent, its `^` included. -/
def text (e : WrittenExponent) : Text :=
  if e.negative then '^' :: '-' :: e.digits else '^' :: e.digits

/-- The digits are there, and they are decimal digits. -/
structure IsWritten (e : WrittenExponent) : Prop where
  nonempty : e.digits ≠ []
  decimal : ∀ c ∈ e.digits, Text.isDecimal c = true

instance (e : WrittenExponent) : Decidable e.IsWritten :=
  decidable_of_iff (e.digits ≠ [] ∧ e.digits.all Text.isDecimal = true)
    ⟨fun ⟨nonempty, decimal⟩ => ⟨nonempty, List.all_eq_true.1 decimal⟩,
      fun h => ⟨h.nonempty, List.all_eq_true.2 h.decimal⟩⟩

theorem length_text (e : WrittenExponent) : e.text.length = e.length := by
  unfold text length
  split <;> rfl

theorem head?_text (e : WrittenExponent) (rest : Text) : (e.text ++ rest).head? = some '^' := by
  unfold text
  split <;> rfl

end WrittenExponent

theorem exponent?_append (h : e.IsWritten) (stop : ∀ c ∈ rest.head?, Text.isDecimal c = false) :
    exponent? (e.text ++ rest) = some e := by
  obtain ⟨negative, digits⟩ := e
  have run := takeWhile_append_of_stop h.decimal stop
  obtain ⟨d, ds, rfl⟩ := List.exists_cons_of_ne_nil h.nonempty
  cases negative with
  | true =>
    simp only [List.cons_append] at run
    simp [exponent?, WrittenExponent.text, run]
  | false =>
    have digit : d ≠ '-' := by
      rintro rfl
      exact absurd (h.decimal '-' List.mem_cons_self) (by decide)
    simp only [List.cons_append] at run
    simp [exponent?, WrittenExponent.text, digit, run]

theorem exponent?_eq_some_iff :
    exponent? t = some e ↔
      ∃ rest, t = e.text ++ rest ∧ e.IsWritten ∧ ∀ c ∈ rest.head?, Text.isDecimal c = false := by
  constructor
  · intro found
    have run (negative : Bool) (rest : Text) (nonempty : rest.takeWhile Text.isDecimal ≠ []) :
        (WrittenExponent.mk negative (rest.takeWhile Text.isDecimal)).IsWritten :=
      ⟨nonempty, List.all_eq_true.1 List.all_takeWhile⟩
    unfold exponent? at found
    dsimp only at found
    split at found
    · next rest =>
      split at found
      · exact nomatch found
      · next nonempty =>
        obtain rfl := Option.some.inj found
        have digits := run true rest fun empty => nonempty (List.isEmpty_iff.2 empty)
        exact ⟨_, by simp [WrittenExponent.text], digits, of_mem_head?_dropWhile _ rest⟩
    · next rest _ =>
      split at found
      · exact nomatch found
      · next nonempty =>
        obtain rfl := Option.some.inj found
        have digits := run false rest fun empty => nonempty (List.isEmpty_iff.2 empty)
        exact ⟨_, by simp [WrittenExponent.text], digits, of_mem_head?_dropWhile _ rest⟩
    · exact nomatch found
  · rintro ⟨rest, rfl, written, stop⟩
    exact exponent?_append written stop

/-- Where no exponent is found, none is written: an exponent with fewer digits would be found with
all its digits. -/
theorem exponent?_eq_none_iff :
    exponent? t = none ↔ ∀ e : WrittenExponent, e.IsWritten → ¬ e.text <+: t := by
  constructor
  · rintro missing ⟨negative, digits⟩ written ⟨rest, rfl⟩
    have longer : WrittenExponent.IsWritten ⟨negative, digits ++ rest.takeWhile Text.isDecimal⟩ :=
      ⟨by simp [written.nonempty], fun c hc => (List.mem_append.1 hc).elim (written.decimal c)
        (List.all_eq_true.1 List.all_takeWhile c)⟩
    have found := exponent?_append longer (of_mem_head?_dropWhile Text.isDecimal rest)
    have same : WrittenExponent.text ⟨negative, digits ++ rest.takeWhile Text.isDecimal⟩
        ++ rest.dropWhile Text.isDecimal = WrittenExponent.text ⟨negative, digits⟩ ++ rest := by
      cases negative <;> simp [WrittenExponent.text]
    rw [same, missing] at found
    exact nomatch found
  · intro none_
    cases found : exponent? t with
    | none => rfl
    | some e =>
      obtain ⟨rest, split, written, -⟩ := exponent?_eq_some_iff.1 found
      exact absurd ⟨rest, split.symm⟩ (none_ e written)

/-! ### Terms -/

namespace Term

/-- The characters of a term. -/
def text (t : Term) : Text := t.name ++ (t.exponent?.map (·.text)).getD []

/-- A name of name characters and, if there is one, an exponent of digits. -/
structure IsWritten (t : Term) : Prop where
  nonempty : t.name ≠ []
  name : ∀ c ∈ t.name, Text.isNameChar c = true
  exponent : ∀ e ∈ t.exponent?, e.IsWritten

instance (t : Term) : Decidable t.IsWritten :=
  decidable_of_iff (t.name ≠ [] ∧ t.name.all Text.isNameChar = true ∧
      ∀ e ∈ t.exponent?, e.IsWritten)
    ⟨fun ⟨nonempty, name, exponent⟩ => ⟨nonempty, List.all_eq_true.1 name, exponent⟩,
      fun h => ⟨h.nonempty, List.all_eq_true.2 h.name, h.exponent⟩⟩

/-- The term does not go on in what follows it. -/
def StopsBefore (t : Term) (rest : Text) : Prop :=
  match t.exponent? with
  | none => (∀ c ∈ rest.head?, Text.isNameChar c = false) ∧
      ∀ e : WrittenExponent, e.IsWritten → ¬ e.text <+: rest
  | some _ => ∀ c ∈ rest.head?, Text.isDecimal c = false

theorem length_text (t : Term) : t.text.length = t.length := by
  obtain ⟨name, written⟩ := t
  cases written with
  | none => simp [text, length]
  | some e => simp [text, length, e.length_text]

/-- A term stops at the end of the text. -/
theorem stopsBefore_nil (t : Term) : t.StopsBefore [] := by
  unfold StopsBefore
  split
  · refine ⟨by simp, fun e written none_ => ?_⟩
    have := e.head?_text []
    rw [List.append_nil, List.prefix_nil.1 none_] at this
    exact nomatch this
  · simp

end Term

/-- A term stops at a character that is not of its kind. -/
theorem Term.stopsBefore_cons (t : Term) {c : Char} (name : Text.isNameChar c = false)
    (decimal : Text.isDecimal c = false) (power : c ≠ '^') (rest : Text) :
    t.StopsBefore (c :: rest) := by
  unfold StopsBefore
  split
  · refine ⟨by simpa using name, fun e written ⟨after, split⟩ => power ?_⟩
    have := e.head?_text after
    rw [split] at this
    exact Option.some.inj this
  · simpa using decimal

theorem term?_append (h : term.IsWritten) (stop : term.StopsBefore rest) :
    term? (term.text ++ rest) = some term := by
  obtain ⟨name, written⟩ := term
  have nonempty : name.isEmpty = false := by simpa using h.nonempty
  have run (rest : Text) (stop : ∀ c ∈ rest.head?, Text.isNameChar c = false) :
      term? (name ++ rest) = some ⟨name, exponent? rest⟩ := by
    have taken := takeWhile_append_of_stop h.name stop
    simp only [term?, taken, List.drop_left, nonempty, Bool.false_eq_true, ↓reduceIte]
  cases written with
  | none =>
    have named := run rest stop.1
    rw [exponent?_eq_none_iff.2 stop.2] at named
    simpa [Term.text] using named
  | some e =>
    have power : ∀ c ∈ (e.text ++ rest).head?, Text.isNameChar c = false := by
      rw [e.head?_text]
      rintro c ⟨⟩
      rfl
    have named := run (e.text ++ rest) power
    rw [exponent?_append (h.exponent e rfl) stop] at named
    simpa [Term.text] using named

/-- The term that a text begins with is the longest one. -/
theorem term?_eq_some_iff :
    term? t = some term ↔
      ∃ rest, t = term.text ++ rest ∧ term.IsWritten ∧ term.StopsBefore rest := by
  constructor
  · intro found
    unfold term? at found
    dsimp only at found
    split at found
    · exact nomatch found
    · next named =>
      obtain rfl := Option.some.inj found
      have nonempty : t.takeWhile Text.isNameChar ≠ [] := by simpa using named
      have name : ∀ c ∈ t.takeWhile Text.isNameChar, Text.isNameChar c = true :=
        List.all_eq_true.1 List.all_takeWhile
      have split : t = t.takeWhile Text.isNameChar ++ t.dropWhile Text.isNameChar :=
        List.takeWhile_append_dropWhile.symm
      have left : t.drop (t.takeWhile Text.isNameChar).length = t.dropWhile Text.isNameChar := by
        have := congrArg (List.drop (t.takeWhile Text.isNameChar).length) split
        rwa [List.drop_left] at this
      rw [left]
      cases written : exponent? (t.dropWhile Text.isNameChar) with
      | none =>
        refine ⟨t.dropWhile Text.isNameChar, ?_, ⟨nonempty, name, nofun⟩, ?_⟩
        · simp [Term.text]
        · exact ⟨of_mem_head?_dropWhile Text.isNameChar t, exponent?_eq_none_iff.1 written⟩
      | some e =>
        obtain ⟨rest, digits, isWritten, stop⟩ := exponent?_eq_some_iff.1 written
        refine ⟨rest, ?_, ⟨nonempty, name, fun e' same => ?_⟩, stop⟩
        · rw [digits] at split
          simpa [Term.text] using split
        · rwa [← Option.some.inj same]
  · rintro ⟨rest, rfl, written, stop⟩
    exact term?_append written stop

/-- No term is found just where no name begins. -/
theorem term?_eq_none_iff : term? t = none ↔ ∀ c ∈ t.head?, Text.isNameChar c = false := by
  unfold term?
  dsimp only
  cases t with
  | nil => simp
  | cons c t => cases name : Text.isNameChar c <;> simp [name]

end CalcSheet.PhysicalUnit
