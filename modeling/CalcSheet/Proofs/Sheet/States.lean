import CalcSheet.Proofs.Bindings
import CalcSheet.Proofs.Evaluation.Lookups
import CalcSheet.Proofs.Sheet.Dependence
import CalcSheet.Proofs.Token.Lines

/-!
# What rows leave behind

The bindings and the references of a state, and what a row changes about them. Later rows depend on
them only as far as they look them up: not on their order, nor on what they do not mention.
-/
namespace CalcSheet

namespace Pass

variable {places : Int} {s s' next next' : State} {row : Row} {line line' : LineResult} {t : Text}

namespace State

theorem lookup_map_some [BEq κ] (xs : List (κ × α)) (key : κ) :
    (xs.map fun (k, v) => (k, some v)).lookup key = (xs.lookup key).map some := by
  induction xs with
  | nil => rfl
  | cons x xs ih =>
    rw [List.map_cons, List.lookup_cons, List.lookup_cons, ih]
    cases key == x.1 <;> rfl

theorem resultOf?_environment (s : State) (k : LineId) :
    s.environment.resultOf? k = s.references.lookup k := by
  rw [Environment.resultOf?, environment, lookup_map_some]
  cases s.references.lookup k <;> rfl

theorem knownNames_environment (s : State) :
    s.environment.knownNames
      = Token.knownNames (sumName :: s.bindings.map Prod.fst) (s.references.map Prod.fst) := by
  have all : (s.allBindings.map fun b => (b.1, some b.2)).filter (·.2.isSome)
      = s.allBindings.map fun b => (b.1, some b.2) := by
    refine List.filter_eq_self.2 fun n hn => ?_
    obtain ⟨b, -, rfl⟩ := List.mem_map.1 hn
    rfl
  simp only [Environment.knownNames, environment, all, Token.knownNames]
  simp only [allBindings, List.map_cons, List.map_map]
  rfl

theorem valueOf?_environment (s : State) (n : Text) :
    s.environment.valueOf? n
      = if n = sumName then some (s.sum.getD .zero) else s.bindings.lookup n := by
  rw [Environment.valueOf?, environment, lookup_map_some, allBindings, List.lookup_cons]
  by_cases sum : n = sumName
  · simp [sum]
  · have other : (n == sumName) = false := by simpa using sum
    simp only [other, sum, ↓reduceIte]
    cases s.bindings.lookup n <;> rfl

/-- What is bound: names that lines assign to, other than `sum`, and identifiers that lines have. No
name and no identifier is bound twice. -/
structure WellNamed (s : State) : Prop where
  target : ∀ n ∈ s.bindings.map Prod.fst, n ≠ sumName ∧ ∃ line, Assignment.target? line = some n
  identified : ∀ id ∈ s.references.map Prod.fst, id ≠ 0
  nodup_bindings : (s.bindings.map Prod.fst).Nodup
  nodup_references : (s.references.map Prod.fst).Nodup

theorem wellNamed_initial : State.initial.WellNamed where
  target := nofun
  identified := nofun
  nodup_bindings := List.nodup_nil
  nodup_references := List.nodup_nil

theorem WellNamed.areNames (h : s.WellNamed) :
    ∀ n ∈ sumName :: s.bindings.map Prod.fst, Assignment.IsName n := by
  intro n mem
  rcases List.mem_cons.1 mem with rfl | mem
  · exact Assignment.isName_of_target? (t := ['s', 'u', 'm', '=']) (by decide)
  · obtain ⟨-, line, found⟩ := h.target n mem
    exact Assignment.isName_of_target? found

theorem WellNamed.arePlain (h : s.WellNamed) :
    Token.ArePlain (sumName :: s.bindings.map Prod.fst) :=
  fun n mem => (h.areNames n mem).plain

theorem mem_knownNames_environment (s : State) (n : KnownName) :
    n ∈ s.environment.knownNames
      ↔ (n.isReference = false ∧ (s.environment.valueOf? n.text).isSome)
        ∨ ∃ id, n = ⟨Reference.text id, true⟩ ∧ (s.environment.resultOf? id).isSome := by
  have named (v : Text) : v ∈ sumName :: s.bindings.map Prod.fst
      ↔ (s.environment.valueOf? v).isSome := by
    rw [valueOf?_environment, List.mem_cons, Bindings.mem_keys_iff]
    by_cases sum : v = sumName <;> simp [sum]
  have identified (id : LineId) : id ∈ s.references.map Prod.fst
      ↔ (s.environment.resultOf? id).isSome := by
    rw [resultOf?_environment, Bindings.mem_keys_iff]
  rw [knownNames_environment, Token.mem_knownNames]
  refine or_congr ⟨?_, ?_⟩ ⟨?_, ?_⟩
  · rintro ⟨v, mem, rfl⟩
    exact ⟨rfl, (named v).1 mem⟩
  · rintro ⟨kind, known⟩
    exact ⟨n.text, (named n.text).2 known, by rw [← kind]⟩
  · rintro ⟨id, mem, rfl⟩
    exact ⟨id, rfl, (identified id).1 mem⟩
  · rintro ⟨id, rfl, known⟩
    exact ⟨id, (identified id).2 known, rfl⟩

/-- A line is scanned in the same way wherever the names that occur in it have the same values. -/
theorem WellNamed.scan_eq (h : s.WellNamed) (agree : s.environment.AgreeOn t s'.environment) :
    Token.scan t s'.environment.knownNames = Token.scan t s.environment.knownNames := by
  have apart : Token.ToldApart s.environment.knownNames :=
    knownNames_environment s ▸ Token.toldApart_knownNames h.arePlain
  refine (Token.scan_congr apart fun n occurs => ?_).symm
  rw [mem_knownNames_environment, mem_knownNames_environment, agree.valueOf? n.text occurs]
  refine or_congr_right (exists_congr fun id => and_congr_right ?_)
  rintro rfl
  rw [agree.resultOf? id occurs]

theorem WellNamed.evaluate_eq (h : s.WellNamed) (agree : s.environment.AgreeOn t s'.environment) :
    Line.evaluate s'.environment s'.environment.knownNames t
      = Line.evaluate s.environment s.environment.knownNames t := by
  have scanned := h.scan_eq agree
  rw [knownNames_environment, knownNames_environment] at scanned ⊢
  exact Line.evaluate_congr agree scanned

theorem WellNamed.lookup_sumName (h : s.WellNamed) : s.bindings.lookup sumName = none := by
  rw [← Option.not_isSome_iff_eq_none, ← Bindings.mem_keys_iff]
  exact fun mem => (h.target sumName mem).1 rfl

/-- A line that does not mention the sum finds the same values where the same are bound to the names
and identifiers that it mentions. -/
theorem agreeOn_environment (noSum : ¬ sumName <:+: t)
    (bindings : ∀ n, n <:+: t → s'.bindings.lookup n = s.bindings.lookup n)
    (references : ∀ id, Reference.text id <:+: t →
      s'.references.lookup id = s.references.lookup id) :
    s.environment.AgreeOn t s'.environment where
  valueOf? n occurs := by
    have other : n ≠ sumName := fun sum => noSum (sum ▸ occurs)
    rw [valueOf?_environment, valueOf?_environment, if_neg other, if_neg other, bindings n occurs]
  resultOf? id occurs := by
    rw [resultOf?_environment, resultOf?_environment, references id occurs]

/-- The same is bound to all names and identifiers, in whatever order; the sums may differ. -/
structure Similar (s s' : State) : Prop where
  bindings : ∀ n, s'.bindings.lookup n = s.bindings.lookup n
  references : ∀ id, s'.references.lookup id = s.references.lookup id

theorem Similar.perm (h : s.Similar s') (named : s.WellNamed) (named' : s'.WellNamed) :
    s'.bindings.Perm s.bindings ∧ s'.references.Perm s.references :=
  ⟨Bindings.perm_of_lookup_eq named'.nodup_bindings named.nodup_bindings h.bindings,
    Bindings.perm_of_lookup_eq named'.nodup_references named.nodup_references h.references⟩

end State

/-! ### The effect of a row -/

/-- The name that a row assigns its result to. -/
def assigned? (row : Row) (line : LineResult) : Option Text :=
  if line.isAssignment then Assignment.target? (row.text.take maxWidth) else none

theorem target?_of_assigned? {n : Text} (assigned : assigned? row line = some n) :
    Assignment.target? (row.text.take maxWidth) = some n := by
  unfold assigned? at assigned
  split at assigned
  · exact assigned
  · exact nomatch assigned

/-- A row without a result binds nothing. A row with a result binds the name that it assigns it to,
unless this is `sum`, and its identifier, if it has one. -/
theorem Evaluates.binds (h : Evaluates places s row line next) :
    match line.result with
    | none => assigned? row line = none ∧ next.bindings = s.bindings
        ∧ next.references = s.references
    | some v => next.bindings = (match assigned? row line with
          | some name => if name = sumName then s.bindings else Bindings.bind name v s.bindings
          | none => s.bindings)
        ∧ next.references = if row.id = 0 then s.references
          else Bindings.bind row.id v s.references := by
  cases h with
  | textLine =>
    refine ⟨rfl, ?_, ?_⟩
    · split <;> rfl
    · split <;> rfl
  | withoutResult => exact ⟨rfl, rfl, rfl⟩
  | withResult kind calculated recorded displayed =>
    obtain ⟨total, -, done⟩ := bind_eq_ok recorded
    obtain rfl := Except.ok.inj done
    exact ⟨rfl, rfl⟩

theorem Evaluates.lookup_bindings (h : Evaluates places s row line next) {n : Text}
    (other : n ≠ sumName) :
    next.bindings.lookup n
      = if assigned? row line = some n then line.result else s.bindings.lookup n := by
  have binds := h.binds
  cases result : line.result with
  | none =>
    rw [result] at binds
    rw [binds.1, binds.2.1]
    rfl
  | some v =>
    rw [result] at binds
    rw [binds.1]
    cases assigned? row line with
    | none => rfl
    | some name =>
      by_cases here : name = n
      · subst here
        simp [other]
      · by_cases sum : name = sumName
        · simp [sum, other.symm]
        · simp [sum, here, Bindings.lookup_bind_of_ne _ _ (Ne.symm here)]

theorem Evaluates.lookup_references (h : Evaluates places s row line next) (id : LineId) :
    next.references.lookup id
      = if row.id ≠ 0 ∧ id = row.id then line.result.or (s.references.lookup id)
        else s.references.lookup id := by
  have binds := h.binds
  cases result : line.result with
  | none =>
    rw [result] at binds
    rw [binds.2.2]
    simp
  | some v =>
    rw [result] at binds
    rw [binds.2]
    by_cases held : row.id = 0
    · simp [held]
    · by_cases here : id = row.id
      · simp [held, here]
      · simp [held, here, Bindings.lookup_bind_of_ne]

theorem Evaluates.wellNamed (h : Evaluates places s row line next) (before : s.WellNamed) :
    next.WellNamed := by
  have binds := h.binds
  cases result : line.result with
  | none =>
    rw [result] at binds
    obtain ⟨-, bindings, references⟩ := binds
    exact ⟨bindings ▸ before.target, references ▸ before.identified,
      bindings ▸ before.nodup_bindings, references ▸ before.nodup_references⟩
  | some v =>
    rw [result] at binds
    obtain ⟨bindings, references⟩ := binds
    have named : (∀ n ∈ next.bindings.map Prod.fst,
          n ≠ sumName ∧ ∃ line, Assignment.target? line = some n)
        ∧ (next.bindings.map Prod.fst).Nodup := by
      rw [bindings]
      cases assigned : assigned? row line with
      | none => exact ⟨before.target, before.nodup_bindings⟩
      | some name =>
        dsimp only
        split
        · exact ⟨before.target, before.nodup_bindings⟩
        · next other =>
          refine ⟨fun n mem => ?_, Bindings.nodup_keys_bind before.nodup_bindings name v⟩
          rcases Bindings.mem_keys_bind.1 mem with rfl | old
          · exact ⟨other, _, target?_of_assigned? assigned⟩
          · exact before.target n old
    have identified : (∀ id ∈ next.references.map Prod.fst, id ≠ 0)
        ∧ (next.references.map Prod.fst).Nodup := by
      rw [references]
      split
      · exact ⟨before.identified, before.nodup_references⟩
      · next held =>
        refine ⟨fun id mem => ?_, Bindings.nodup_keys_bind before.nodup_references row.id v⟩
        rcases Bindings.mem_keys_bind.1 mem with rfl | old
        · exact held
        · exact before.identified id old
    exact ⟨named.1, identified.1, named.2, identified.2⟩

theorem wellNamed_stateBefore {rows : List Row} {p : Pass} {r : Nat}
    (h : ofRows places rows = .ok p) (inside : r ≤ (rows.take maxRows).length) :
    ∃ s, stateBefore places rows r = .ok s ∧ s.WellNamed :=
  stateBefore_invariant (motive := fun _ s => s.WellNamed) h State.wellNamed_initial
    (fun _ _ _ evaluated => evaluated.wellNamed) inside

end Pass
end CalcSheet
