import CalcSheet.Proofs.Bindings
import CalcSheet.Proofs.Unit.Reading
import CalcSheet.Unit.Registry

/-!
# What a registry remembers

A registry answers every question as if it were the first one: what it remembers are outcomes of
reading, and its table holds the derived units. It never remembers more texts than the limit.
-/
namespace CalcSheet.PhysicalUnit

variable {t : Text} {outcome : Except ParseFault PhysicalUnit}

/-- Reading has been broken off, and may have ended otherwise. -/
def IsInterrupted (outcome : Except ParseFault PhysicalUnit) : Prop :=
  ∃ cause, outcome = .error (.interrupted cause)

/-- Whether a text is a unit, by the outcome of reading it. -/
def isUnitOf : Except ParseFault PhysicalUnit → Except Interruption Bool
  | .ok _ => .ok true
  | .error (.interrupted cause) => .error cause
  | .error _ => .ok false

namespace Memo

/-- The memo keeps the outcomes of reading some texts, each text once and not too many. -/
structure IsValid (m : Memo) : Prop where
  size : m.size ≤ limit
  nodup : (m.entries.map Prod.fst).Nodup
  outcomes : ∀ x ∈ m.entries, x.2 = PhysicalUnit.parse x.1 ∧ ¬ IsInterrupted x.2

variable {m : Memo}

theorem isValid_empty : empty.IsValid where
  size := Nat.zero_le _
  nodup := List.nodup_nil
  outcomes := List.forall_mem_nil _

theorem contains_iff : m.contains t = true ↔ t ∈ m.entries.map Prod.fst :=
  Bindings.mem_keys_iff.symm

theorem IsValid.outcome_of_find? (h : m.IsValid) (found : m.find? t = some outcome) :
    outcome = PhysicalUnit.parse t ∧ ¬ IsInterrupted outcome :=
  h.outcomes (t, outcome) ((Bindings.lookup_eq_some_iff h.nodup).1 found)

/-- The entries after an insertion are the newest ones, the inserted one among them. -/
theorem entries_insert (m : Memo) (t : Text) (outcome : Except ParseFault PhysicalUnit) :
    ∃ k ≤ m.entries.length, (m.insert t outcome).entries = m.entries.drop k ++ [(t, outcome)] ∧
      (m.size ≤ limit → (m.insert t outcome).size ≤ limit) := by
  unfold insert
  dsimp only
  split
  · next full =>
    rw [List.length_append, List.length_singleton] at full ⊢
    obtain ⟨positive, half⟩ : 0 < limit / 2 ∧ limit / 2 ≤ limit := by decide
    generalize limit / 2 = kept at positive half ⊢
    refine ⟨m.entries.length + 1 - kept, by omega, ?_, fun _ => ?_⟩
    · exact List.drop_append_of_le_length (by omega)
    · simp only [size, List.length_drop, List.length_append, List.length_singleton]
      omega
  · next within => exact ⟨0, Nat.zero_le _, rfl, fun _ => Nat.le_of_not_lt within⟩

theorem IsValid.insert (h : m.IsValid) (new : m.find? t = none)
    (calm : ¬ IsInterrupted (PhysicalUnit.parse t)) :
    (m.insert t (PhysicalUnit.parse t)).IsValid := by
  obtain ⟨k, -, entries, bounded⟩ := entries_insert m t (PhysicalUnit.parse t)
  have absent : t ∉ m.entries.map Prod.fst := by
    rw [Bindings.mem_keys_iff]
    exact fun known => Option.isSome_iff_ne_none.1 known new
  refine ⟨bounded h.size, ?_, ?_⟩
  · rw [entries, List.map_append]
    have kept := (List.drop_sublist k m.entries).map Prod.fst
    exact (h.nodup.sublist kept).append (List.nodup_singleton t)
      (List.disjoint_singleton.2 fun mem => absent (kept.subset mem))
  · rw [entries]
    exact List.forall_mem_append.2 ⟨fun x mem => h.outcomes x (List.mem_of_mem_drop mem),
      List.forall_mem_singleton.2 ⟨rfl, calm⟩⟩

theorem contains_insert (m : Memo) (t : Text) (outcome : Except ParseFault PhysicalUnit) :
    (m.insert t outcome).contains t = true := by
  obtain ⟨k, -, entries, -⟩ := entries_insert m t outcome
  rw [contains_iff, entries]
  simp

theorem IsValid.contains_iff_calm (h : m.IsValid)
    (read : m.contains t = true ∨ IsInterrupted (PhysicalUnit.parse t)) :
    m.contains t = true ↔ ¬ IsInterrupted (PhysicalUnit.parse t) := by
  refine ⟨fun known => ?_, read.resolve_right⟩
  obtain ⟨outcome, found⟩ := Option.isSome_iff_exists.1 known
  obtain ⟨rfl, calm⟩ := h.outcome_of_find? found
  exact calm

/-- Reading by way of a memo: what is new is inserted, unless reading is interrupted. -/
theorem parse_of_new (new : m.find? t = none) :
    m.parse t = (PhysicalUnit.parse t, m) ∧ IsInterrupted (PhysicalUnit.parse t) ∨
      m.parse t = (PhysicalUnit.parse t, m.insert t (PhysicalUnit.parse t)) ∧
        ¬ IsInterrupted (PhysicalUnit.parse t) := by
  rw [Memo.parse, new]
  dsimp only
  split
  · next cause read => exact .inl ⟨by rw [read], cause, read⟩
  · next other => exact .inr ⟨rfl, fun ⟨cause, read⟩ => other cause read⟩

/-- Reading by way of a valid memo gives the outcome of reading, which is remembered unless it was
interrupted. -/
theorem IsValid.parse (h : m.IsValid) (t : Text) :
    (m.parse t).1 = PhysicalUnit.parse t ∧ (m.parse t).2.IsValid ∧
      ((m.parse t).2.contains t = true ↔ ¬ IsInterrupted (PhysicalUnit.parse t)) := by
  cases known : m.find? t with
  | some outcome =>
    have same : m.parse t = (outcome, m) := by rw [Memo.parse, known]
    rw [same]
    refine ⟨(h.outcome_of_find? known).1, h, h.contains_iff_calm (.inl ?_)⟩
    rw [contains, known]
    rfl
  | none =>
    rcases parse_of_new known with ⟨same, interrupted⟩ | ⟨same, calm⟩
    · rw [same]
      exact ⟨rfl, h, h.contains_iff_calm (.inr interrupted)⟩
    · rw [same]
      exact ⟨rfl, h.insert known calm, iff_of_true (contains_insert m t _) calm⟩

theorem isUnit_eq (m : Memo) (t : Text) :
    m.isUnit t = (isUnitOf (m.parse t).1, (m.parse t).2) := by
  unfold isUnit
  obtain ⟨outcome, m'⟩ := m.parse t
  cases outcome with
  | ok u => rfl
  | error fault => cases fault <;> rfl

end Memo

/-! ### The table of derived units -/

namespace Table

variable {table : Table} {d : Dimensions}

theorem lookup_keepFirst (table : Table) (u : PhysicalUnit) (d : Dimensions) :
    (table.keepFirst u).lookup d
      = (table.lookup d).or (if u.dimensions = d then some u else none) := by
  unfold keepFirst
  split
  · next known =>
    split
    · next same =>
      subst same
      obtain ⟨w, found⟩ := Option.isSome_iff_exists.1 known
      rw [found]
      rfl
    · rw [Option.or_none]
  · rw [List.lookup_append]
    congr 1
    by_cases same : u.dimensions = d
    · simp [same]
    · have other : (d == u.dimensions) = false := by simpa using Ne.symm same
      simp [List.lookup_cons, other, same]

/-- Of the units of one dimension the first that is entered is found. -/
theorem lookup_foldl_keepFirst (us : List PhysicalUnit) (table : Table) (d : Dimensions) :
    (us.foldl keepFirst table).lookup d
      = (table.lookup d).or (us.find? (·.dimensions = d)) := by
  induction us generalizing table with
  | nil => rw [List.foldl_nil, List.find?_nil, Option.or_none]
  | cons u us ih =>
    rw [List.foldl_cons, ih, lookup_keepFirst, Option.or_assoc, List.find?_cons]
    congr 1
    by_cases same : u.dimensions = d <;> simp [same]

end Table

namespace Registry

/-- Entering names that are read goes through, and enters their units. -/
theorem enter_eq {m : Memo} {names : List String} (h : m.IsValid)
    (read : ∀ name ∈ names, ∃ u, PhysicalUnit.parse name.toList = .ok u) (table : Table) :
    ∃ m' : Memo, m'.IsValid ∧ enter m table names = (.ok (), m',
      (names.filterMap fun name => (PhysicalUnit.parse name.toList).toOption).foldl
        Table.keepFirst table) := by
  induction names generalizing m table with
  | nil => exact ⟨m, h, rfl⟩
  | cons name names ih =>
    obtain ⟨⟨u, parsed⟩, later⟩ := List.forall_mem_cons.1 read
    obtain ⟨outcome, valid, -⟩ := h.parse name.toList
    obtain ⟨m', valid', entered⟩ := ih valid later (table.keepFirst u)
    refine ⟨m', valid', ?_⟩
    have first : m.parse name.toList = (.ok u, (m.parse name.toList).2) := by
      rw [← parsed, ← outcome]
    rw [enter, first]
    simp only [List.filterMap_cons, parsed]
    exact entered

/-- The memo of the registry is valid, and its table holds the derived units. -/
structure IsValid (r : Registry) : Prop where
  memo : r.memo.IsValid
  table : ∀ table ∈ r.table?, ∀ d, table.lookup d = derivedUnits.find? (·.dimensions = d)

theorem isValid_fresh : fresh.IsValid := ⟨Memo.isValid_empty, nofun⟩

variable {r : Registry}

theorem IsValid.derived? (h : r.IsValid) (u? : Option PhysicalUnit) :
    (r.derived? u?).1 = .ok (u?.bind PhysicalUnit.derived?) ∧ (r.derived? u?).2.IsValid := by
  have found (table : Table) (holds : ∀ d, table.lookup d = derivedUnits.find? (·.dimensions = d)) :
      (u?.bind fun u => table.lookup u.dimensions) = u?.bind PhysicalUnit.derived? := by
    cases u? with
    | none => simp only [Option.bind_none]
    | some u => simp only [Option.bind_some, PhysicalUnit.derived?, holds]
  unfold Registry.derived?
  cases known : r.table? with
  | some table =>
    have holds := h.table table known
    exact ⟨congrArg Except.ok (found table holds), h⟩
  | none =>
    have read : ∀ name ∈ derivedNames, ∃ u, PhysicalUnit.parse name.toList = .ok u :=
      fun name known => (derivedNames_read name known).imp fun _ parsed => parsed.1
    obtain ⟨m', valid, entered⟩ := enter_eq h.memo read []
    have holds (d : Dimensions) :
        (derivedUnits.foldl Table.keepFirst []).lookup d
          = derivedUnits.find? (·.dimensions = d) := by
      rw [Table.lookup_foldl_keepFirst, List.lookup_nil, Option.none_or]
    rw [← derivedUnits] at entered
    generalize derivedUnits.foldl Table.keepFirst [] = table at entered holds
    simp only [entered]
    refine ⟨congrArg Except.ok (found table holds), valid, ?_⟩
    rintro table ⟨⟩
    exact holds

/-! ### Questions -/

/-- What a registry can be asked. -/
inductive Query where
  | parse (t : Text)
  | isUnit (t : Text)
  | derived (u? : Option PhysicalUnit)

inductive Answer where
  | parse (outcome : Except ParseFault PhysicalUnit)
  | isUnit (outcome : Except Interruption Bool)
  | derived (outcome : Except Interruption (Option PhysicalUnit))

/-- The answer of a registry, and the registry after it. -/
def answer (r : Registry) : Query → Answer × Registry
  | .parse t => (.parse (r.parse t).1, (r.parse t).2)
  | .isUnit t => (.isUnit (r.isUnit t).1, (r.isUnit t).2)
  | .derived u? => (.derived (r.derived? u?).1, (r.derived? u?).2)

/-- A registry that has been asked some questions, one after another. -/
def after (queries : List Query) : Registry := queries.foldl (fun r q => (r.answer q).2) fresh

/-- The answer to a question whatever has been asked before. -/
def Query.answer : Query → Answer
  | .parse t => .parse (PhysicalUnit.parse t)
  | .isUnit t => .isUnit (isUnitOf (PhysicalUnit.parse t))
  | .derived u? => .derived (.ok (u?.bind PhysicalUnit.derived?))

/-- A valid registry gives that answer and stays valid. -/
theorem IsValid.answer (h : r.IsValid) (q : Query) :
    (r.answer q).1 = q.answer ∧ (r.answer q).2.IsValid := by
  cases q with
  | parse t =>
    obtain ⟨outcome, valid, -⟩ := h.memo.parse t
    exact ⟨congrArg Answer.parse outcome, valid, h.table⟩
  | isUnit t =>
    obtain ⟨outcome, valid, -⟩ := h.memo.parse t
    simp only [Registry.answer, Registry.isUnit, r.memo.isUnit_eq t, outcome]
    exact ⟨rfl, valid, h.table⟩
  | derived u? =>
    obtain ⟨outcome, valid⟩ := h.derived? u?
    exact ⟨congrArg Answer.derived outcome, valid⟩

theorem after_concat (queries : List Query) (q : Query) :
    after (queries ++ [q]) = ((after queries).answer q).2 := by
  rw [after, List.foldl_append]
  rfl

theorem isValid_after (queries : List Query) : (after queries).IsValid := by
  induction queries using List.reverseRecOn with
  | nil => exact isValid_fresh
  | append_singleton queries q ih =>
    rw [after_concat]
    exact (ih.answer q).2

/-- A text that is read is remembered right after it, unless reading was interrupted. -/
theorem contains_after_parse (queries : List Query) (t : Text) :
    (after (queries ++ [.parse t])).memo.contains t = true
      ↔ ¬ IsInterrupted (PhysicalUnit.parse t) := by
  rw [after_concat]
  exact ((isValid_after queries).memo.parse t).2.2

/-- What has been asked before changes no answer. What is remembered are never more texts than the
limit, each of them once and with the outcome of reading it, and a text that has just been read is
among them unless reading it was interrupted. -/
theorem answer_after (queries : List Query) (q : Query) :
    ((after queries).answer q).1 = (fresh.answer q).1 ∧
    ((after queries).memo.size ≤ Memo.limit ∧
      ((after queries).memo.entries.map Prod.fst).Nodup ∧
      ∀ x ∈ (after queries).memo.entries, x.2 = PhysicalUnit.parse x.1) ∧
    ∀ t, (after (queries ++ [.parse t])).memo.contains t = true
      ↔ ¬ IsInterrupted (PhysicalUnit.parse t) := by
  have valid := isValid_after queries
  refine ⟨?_, ⟨valid.memo.size, valid.memo.nodup, fun x mem => (valid.memo.outcomes x mem).1⟩,
    contains_after_parse queries⟩
  rw [(valid.answer q).1, (isValid_fresh.answer q).1]

/-- Not every text that is read without a signal is remembered: one with a long exponent is not. -/
theorem not_forall_remembered :
    ¬ ∀ (queries : List Query) (t : Text),
      (∀ s, PhysicalUnit.parse t ≠ .error (.interrupted (.signal s))) →
      (after (queries ++ [.parse t])).memo.contains t = true := by
  intro all
  have contained := all [] longMetre.text (by simp [parse_longMetre])
  exact (contains_after_parse [] _).1 contained ⟨_, parse_longMetre⟩

end Registry
end CalcSheet.PhysicalUnit
