import CalcSheet.Proofs.Unit.Labels

/-!
# Symbols of the catalogue

A unit that is read consists of the units of its names, so its symbols tell its dimensions if those
of the names do. Each symbol of the catalogue has dimensions of its own, but for that of `centiday`,
which is also the symbol of the candela.
-/
namespace CalcSheet

namespace PhysicalUnit

variable {term : Term}

/-! ### Names in a unit expression -/

def isOperator (c : Char) : Bool := c == '*' || c == '/'

/-- The names in a unit expression: what stands in front of, between and behind the operators, up to
the exponents. -/
def names (t : Text) : List Text := (t.splitOnP isOperator).map (·.takeWhile Text.isNameChar)

theorem infix_of_mem_names {t name : Text} (mem : name ∈ names t) : name <:+: t := by
  obtain ⟨piece, inside, rfl⟩ := List.mem_map.1 mem
  exact (List.takeWhile_prefix _).isInfix.trans (infix_of_mem_splitOnP inside)

theorem isOperator_eq_false {c : Char}
    (h : Text.isNameChar c = true ∨ Text.isDecimal c = true ∨ c = '^' ∨ c = '-') :
    isOperator c = false := by
  rw [← Bool.not_eq_true, isOperator, Bool.or_eq_true, beq_iff_eq, beq_iff_eq]
  rintro (rfl | rfl) <;> exact absurd h (by decide)

theorem WrittenExponent.IsWritten.not_operator {e : WrittenExponent} (h : e.IsWritten) :
    ∀ c ∈ e.text, isOperator c = false := by
  intro c mem
  refine isOperator_eq_false (.inr ?_)
  unfold text at mem
  split at mem
  · rcases List.mem_cons.1 mem with power | mem
    · exact .inr (.inl power)
    · rcases List.mem_cons.1 mem with minus | mem
      · exact .inr (.inr minus)
      · exact .inl (h.decimal c mem)
  · rcases List.mem_cons.1 mem with power | mem
    · exact .inr (.inl power)
    · exact .inl (h.decimal c mem)

namespace Term.IsWritten

theorem not_operator (h : term.IsWritten) : ∀ c ∈ term.text, isOperator c = false := by
  intro c mem
  rcases List.mem_append.1 mem with mem | mem
  · exact isOperator_eq_false (.inl (h.name c mem))
  · cases written : term.exponent? with
    | none => simp [written] at mem
    | some e =>
      rw [written] at mem
      exact (h.exponent e written).not_operator c mem

theorem takeWhile_text (h : term.IsWritten) :
    term.text.takeWhile Text.isNameChar = term.name := by
  refine takeWhile_append_of_stop h.name fun c stop => ?_
  cases written : term.exponent? with
  | none => simp [written] at stop
  | some e =>
    have power := e.head?_text []
    rw [List.append_nil] at power
    rw [written, Option.map_some, Option.getD_some, power] at stop
    obtain rfl := Option.some.inj stop
    decide

theorem names_text (h : term.IsWritten) : names term.text = [term.name] := by
  rw [names, List.splitOnP_eq_singleton h.not_operator, List.map_singleton, h.takeWhile_text]

end Term.IsWritten

theorem names_append_cons (t rest : Text) (j : Joint) :
    names (t ++ j.char :: rest) = names t ++ names rest := by
  have operator : isOperator j.char = true := by cases j <;> rfl
  rw [names, List.splitOnP_append_cons t rest operator, List.map_append, names, names]

/-- The names in the text of a chain are those of its terms. -/
theorem Chain.names_text {c : Chain} (written : ∀ x ∈ c.terms, x.2.IsWritten) :
    names c.text = c.terms.map (·.2.name) := by
  obtain ⟨first, others⟩ := c
  induction others generalizing first with
  | nil =>
    have here := written _ List.mem_cons_self
    exact (congrArg names (List.append_nil _)).trans here.names_text
  | cons x others ih =>
    obtain ⟨j, next⟩ := x
    obtain ⟨here, behind⟩ := forall_mem_terms.1 written
    have later := ih next (forall_mem_terms.2 (List.forall_mem_cons.1 behind))
    have cut := names_append_cons first.text (Chain.mk next others).text j
    rw [here.names_text, later] at cut
    exact cut

end PhysicalUnit

/-! ### Dimensions of the names -/

namespace Catalogue
open PhysicalUnit

/-- The unit of the name, if it has one, has the dimensions of its symbol. -/
def Agrees (D : Text → Dimensions) (name : Text) : Prop :=
  ∀ u, find name = .ok u → ∀ x ∈ u.symbols, u.dimensions = D x.1

/-- A number for the symbol, with its characters as digits. -/
def Entry.key (e : Entry) : Nat := e.symbol.toList.foldl (fun n c => 2097152 * n + c.toNat) 0

def withRemainder (n : Nat) : List Entry := entries.filter fun e => e.key % 61 == n

-- To compare all entries with each other takes too long, so they are sorted by a remainder first.
theorem symbols_of_entries :
    ∀ n ∈ List.range 61, ∀ e ∈ withRemainder n, IsPlain e.symbol.toList ∧
      ∀ e' ∈ withRemainder n, e.key = e'.key →
        e.dimensions = e'.dimensions ∨ e.names = ["centiday"] ∨ e'.names = ["centiday"] := by
  decide +kernel

variable {e e' : Entry}

theorem Entry.mem_withRemainder (listed : e ∈ entries) : e ∈ withRemainder (e.key % 61) :=
  List.mem_filter.2 ⟨listed, beq_self_eq_true _⟩

theorem Entry.remainder_mem (e : Entry) : e.key % 61 ∈ List.range 61 :=
  List.mem_range.2 (Nat.mod_lt _ (by decide))

theorem isPlain_symbol (listed : e ∈ entries) : IsPlain e.symbol.toList :=
  (symbols_of_entries _ e.remainder_mem e (Entry.mem_withRemainder listed)).1

theorem isPlain_of_find {name : Text} {u : PhysicalUnit} (found : find name = .ok u) :
    ∃ s, u.symbols = [(s, 1)] ∧ IsPlain s := by
  obtain ⟨e, listed, rfl⟩ := exists_entry_of_find found
  exact ⟨e.symbol.toList, rfl, isPlain_symbol listed⟩

theorem Agrees.isLabelled {D : Text → Dimensions} {name : Text} {u : PhysicalUnit}
    (h : Agrees D name) (found : find name = .ok u) : u.IsLabelled D := by
  obtain ⟨s, symbols, plain⟩ := isPlain_of_find found
  have dimensions := h u found
  rw [IsLabelled]
  rw [symbols] at dimensions ⊢
  refine ⟨isReduced_singleton s one_ne_zero, List.forall_mem_singleton.2 plain, ?_⟩
  rw [dimensions (s, 1) (List.mem_singleton_self _), dimensionsBy, dimensionsBy,
    Dimensions.scale_one, Dimensions.add_none]

end Catalogue

/-! ### Units that are read -/

namespace PhysicalUnit

variable {D : Text → Dimensions} {t : Text} {u : PhysicalUnit} {ps : List Power}
  {ys : List (Joint × Term)}

theorem isLabelled_of_denotes (denotes : List.Forall₂ Denotes ys ps)
    (agree : ∀ y ∈ ys, Catalogue.Agrees D y.2.name) : ∀ p ∈ ps, p.unit.IsLabelled D := by
  induction denotes with
  | nil => exact List.forall_mem_nil _
  | cons here _ ih =>
    obtain ⟨first, others⟩ := List.forall_mem_cons.1 agree
    exact List.forall_mem_cons.2 ⟨first.isLabelled here.find, ih others⟩

/-- The symbols of a product tell its dimensions if those of the factors do. -/
theorem describes_product (each : ∀ p ∈ ps, p.unit.IsLabelled D) :
    Describes D (totalSymbols ps) (totalDimensions ps) := by
  induction ps using List.reverseRecOn with
  | nil => exact describes_nil D
  | append_singleton ps p ih =>
    have front := ih fun q mem => each q (List.mem_append_left _ mem)
    have last : Describes D p.symbols p.dimensions :=
      (each p (by simp)).raise p.exponent
    have product := front.merge last 1
    rwa [Dimensions.scale_one, ← totalSymbols_concat, ← totalDimensions_concat] at product

/-- A unit that is read from names whose units have the dimensions of their symbols. -/
theorem isLabelled_of_parse (agree : ∀ name ∈ names t, Catalogue.Agrees D name)
    (parsed : parse t = .ok u) : u.IsLabelled D := by
  obtain ⟨ps, x, read, rfl⟩ := (parse_outcome t).ok parsed
  obtain ⟨⟨first, others⟩, reading⟩ := read.exists_chain
  have denotes := reading.powers.denotes
  have written := ((List.forall₂_and_left _ _).1
    (denotes.imp fun y p (h : Denotes y p) => ⟨h.written, h⟩)).1
  rw [← reading.text, Chain.names_text written] at agree
  refine describes_product (isLabelled_of_denotes denotes fun y mem => ?_)
  exact agree _ (List.mem_map_of_mem mem)

end PhysicalUnit
end CalcSheet
