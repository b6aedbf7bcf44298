import CalcSheet.Proofs.Evaluation.Assignments
import CalcSheet.Proofs.Sheet.Identifiers
import CalcSheet.Proofs.Sheet.States
import CalcSheet.Proofs.Token.Alone

/-!
# Reading what earlier rows have bound

A name keeps the result that a row has assigned to it until another row assigns one, and the
identifier of a row keeps the result of the row for good. A later row that consists of the name or
of the reference alone has that result, as far as the reference fits into the width of a line.
-/
namespace CalcSheet
namespace Pass

variable {places : Int} {s next : State} {row above : Row} {rows : List Row} {line : LineResult}
  {p : Pass} {n : Text} {id : LineId} {v : Value} {i j : Nat}

/-! ### Rows that bind -/

/-- A row that begins as an assignment to a name assigns its result to the name. -/
theorem Evaluates.assigned?_eq (h : Evaluates places s row line next)
    (target : Assignment.target? (row.text.take maxWidth) = some n)
    (result : line.result = some v) : assigned? row line = some n := by
  cases h with
  | textLine => exact nomatch result
  | withoutResult => exact nomatch result
  | withResult kind calculated =>
    rw [assigned?, if_pos (Line.isAssignment_of_target? kind target calculated), target]

theorem Evaluates.lookup_bindings_of_target (h : Evaluates places s row line next)
    (other : n ≠ sumName) (target : Assignment.target? (row.text.take maxWidth) = some n)
    (result : line.result = some v) : next.bindings.lookup n = some v := by
  rw [h.lookup_bindings other, if_pos (h.assigned?_eq target result), result]

theorem Evaluates.lookup_bindings_of_quiet (h : Evaluates places s row line next)
    (other : n ≠ sumName)
    (quiet : Assignment.target? (row.text.take maxWidth) = some n → line.result = none) :
    next.bindings.lookup n = s.bindings.lookup n := by
  rw [h.lookup_bindings other, if_neg]
  intro assigned
  have binds := h.binds
  rw [quiet (target?_of_assigned? assigned)] at binds
  exact nomatch assigned.symm.trans binds.1

/-- A name keeps the result that a row has assigned to it at all places down to the next row that
assigns one to it. -/
theorem lookup_bindings_of_target (h : ofRows places rows = .ok p) (order : i < j)
    (inside : j ≤ (rows.take maxRows).length) (before : stateBefore places rows j = .ok s)
    (at_i : rows[i]? = some above) (found : p.lines[i]? = some line) (result : line.result = some v)
    (other : n ≠ sumName) (target : Assignment.target? (above.text.take maxWidth) = some n)
    (quiet : ∀ r, i < r → r < j → ∀ row line, rows[r]? = some row → p.lines[r]? = some line →
      Assignment.target? (row.text.take maxWidth) = some n → line.result = none) :
    s.bindings.lookup n = some v := by
  refine stateBefore_since (motive := (·.bindings.lookup n = some v)) h order inside before
    (fun at_r here evaluated => ?_) fun after within at_r here evaluated bound => ?_
  · obtain rfl := Option.some.inj (at_i.symm.trans at_r)
    obtain rfl := Option.some.inj (found.symm.trans here)
    exact evaluated.lookup_bindings_of_target other target result
  · rw [evaluated.lookup_bindings_of_quiet other (quiet _ after within _ _ at_r here)]
    exact bound

/-- An identifier keeps the result of its row at all places below. -/
theorem lookup_references_of_id (h : ofRows places rows = .ok p) (order : i < j)
    (inside : j ≤ (rows.take maxRows).length) (before : stateBefore places rows j = .ok s)
    (at_i : rows[i]? = some above) (found : p.lines[i]? = some line) (result : line.result = some v)
    (held : above.id ≠ 0) (own : ∀ r row, rows[r]? = some row → above.id = row.id → i = r) :
    s.references.lookup above.id = some v := by
  refine stateBefore_since (motive := (·.references.lookup above.id = some v)) h order inside before
    (fun at_r here evaluated => ?_) fun after _ at_r _ evaluated bound => ?_
  · obtain rfl := Option.some.inj (at_i.symm.trans at_r)
    obtain rfl := Option.some.inj (found.symm.trans here)
    rw [evaluated.lookup_references, if_pos ⟨held, rfl⟩, result]
    rfl
  · rw [evaluated.lookup_references,
      if_neg fun same => Nat.ne_of_lt after (own _ _ at_r same.2)]
    exact bound

/-! ### Rows that read -/

/-- A row has the result that its calculation has. -/
theorem Evaluates.result_of_calculated (h : Evaluates places s row line next)
    {tokens : List Token} {o : Outcome} (kind : isTextLine (row.text.take maxWidth) = false)
    (calculation : Line.evaluate s.environment s.environment.knownNames (row.text.take maxWidth)
      = .ok (tokens, some o)) : line.result = some o.result := by
  cases h with
  | textLine kind' =>
    rw [kind] at kind'
    exact nomatch kind'
  | withoutResult _ calculated =>
    rw [calculation] at calculated
    exact nomatch (Prod.mk.inj (Except.ok.inj calculated)).2
  | withResult _ calculated =>
    rw [calculation] at calculated
    obtain ⟨-, outcome⟩ := Prod.mk.inj (Except.ok.inj calculated)
    obtain rfl := Option.some.inj outcome
    rfl

/-- A row of one operand has the value of the operand as its result. -/
theorem Evaluates.result_of_operand (h : Evaluates places s row line next) {o : Operand}
    (consists : Token.ConsistsOf s.environment.knownNames (row.text.take maxWidth) (.operand o))
    (known : ∀ m : Machine, m.step s.environment (.push o) = .ok { m with stack := v :: m.stack }) :
    line.result = some v := by
  obtain ⟨kind, tokens, scanned, single⟩ := consists
  exact h.result_of_calculated kind (Line.evaluate_operand scanned single known)

theorem Evaluates.result_of_name (h : Evaluates places s row line next) (named : s.WellNamed)
    (bound : s.bindings.lookup n = some v) (width : row.text.length ≤ maxWidth)
    (alone : StandsAlone n row.text) : line.result = some v := by
  have mem : n ∈ s.bindings.map Prod.fst := Bindings.mem_keys_iff.2 (by rw [bound]; rfl)
  have value : s.environment.valueOf? n = some v := by
    rw [s.valueOf?_environment, if_neg (named.target n mem).1, bound]
  refine h.result_of_operand (o := .variable n) ?_ fun m => by simp only [Machine.step, value]
  rw [List.take_of_length_le width, s.knownNames_environment]
  exact Token.consistsOf_name named.areNames (List.mem_cons_of_mem _ mem) alone

theorem State.step_reference (s : State) (bound : s.references.lookup id = some v) (m : Machine) :
    m.step s.environment (.push (.reference id)) = .ok { m with stack := v :: m.stack } := by
  have value : s.environment.resultOf? id = some v := by rw [s.resultOf?_environment, bound]
  simp only [Machine.step, value]

theorem State.WellNamed.consistsOf_reference (named : s.WellNamed) (pos : 0 < id)
    (bound : s.references.lookup id = some v) (width : row.text.length ≤ maxWidth)
    (alone : StandsAlone (Reference.text id) row.text) :
    Token.ConsistsOf s.environment.knownNames (row.text.take maxWidth)
      (.operand (.reference id)) := by
  have mem : id ∈ s.references.map Prod.fst := Bindings.mem_keys_iff.2 (by rw [bound]; rfl)
  have readable : (Reference.text id).length ≤ Digits.maxLength := by
    have short : maxWidth ≤ Digits.maxLength := by decide
    obtain ⟨lead, trail, -, -, whole⟩ := alone
    rw [whole, List.length_append, List.length_append] at width
    omega
  rw [List.take_of_length_le width, s.knownNames_environment]
  exact Token.consistsOf_reference named.arePlain pos mem readable alone

theorem Evaluates.result_of_reference (h : Evaluates places s row line next) (named : s.WellNamed)
    (pos : 0 < id) (bound : s.references.lookup id = some v) (width : row.text.length ≤ maxWidth)
    (alone : StandsAlone (Reference.text id) row.text) : line.result = some v :=
  h.result_of_operand (named.consistsOf_reference pos bound width alone) (s.step_reference bound)

end Pass

namespace Sheet

/-- A row that consists of one name has the result that a row above has assigned to the name, if no
row between them assigns another one, and a row that consists of a reference to a row above has the
result of that row. Other names, units and words that the name resembles make no difference. -/
theorem result_of_standsAlone {s s₁ : Sheet} {p : Pass} {above below : Row} {x : LineResult}
    {v : Value} {i j : Nat} (nodup : s.ids.Nodup) (evaluated : s.evaluate = .ok (p, s₁))
    (order : i < j) (inside : j < Pass.maxRows) (at_i : s.rows[i]? = some above)
    (at_j : s.rows[j]? = some below) (found : p.lines[i]? = some x) (result : x.result = some v)
    (width : below.text.length ≤ Pass.maxWidth) :
    (∀ n, Assignment.target? (above.text.take Pass.maxWidth) = some n → n ≠ Pass.sumName →
      (∀ r, i < r → r < j → ∀ row line, s.rows[r]? = some row → p.lines[r]? = some line →
        Assignment.target? (row.text.take Pass.maxWidth) = some n → line.result = none) →
      StandsAlone n below.text → ∃ line, p.lines[j]? = some line ∧ line.result = some v)
    ∧ (0 < above.id → StandsAlone (Reference.text above.id) below.text →
      ∃ line, p.lines[j]? = some line ∧ line.result = some v) := by
  obtain ⟨passed, -⟩ := evaluate_eq_ok.1 evaluated
  have within : j < (s.rows.take Pass.maxRows).length := by
    have bound := (List.getElem?_eq_some_iff.1 at_j).1
    rw [List.length_take]
    omega
  obtain ⟨state, before, named⟩ := Pass.wellNamed_stateBefore passed (Nat.le_of_lt within)
  obtain ⟨_, line, next, at_row, here, evaluates, -⟩ :=
    Pass.evaluates_of_stateBefore passed within before
  obtain rfl := Option.some.inj (at_j.symm.trans at_row)
  constructor
  · intro n target other quiet alone
    have bound := Pass.lookup_bindings_of_target passed order (Nat.le_of_lt within) before at_i
      found result other target quiet
    exact ⟨line, here, evaluates.result_of_name named bound width alone⟩
  · intro pos alone
    have held : above.id ≠ 0 := Int.ne_of_gt pos
    have bound := Pass.lookup_references_of_id passed order (Nat.le_of_lt within) before at_i
      found result held fun r row at_r same => eq_of_row_id_eq nodup at_i at_r same held
    exact ⟨line, here, evaluates.result_of_reference named pos bound width alone⟩

/-- The name of the first row is a word of the language, and the name of the second row begins with
it. The last two rows read the first one by its name and by its identifier. -/
theorem result_of_standsAlone_keyword :
    let s : Sheet := ⟨[['t', 'o', '=', '2'], ['t', 'o', ' ', 'm', '=', '3'], [' ', 't', 'o', ' '],
      ['&', '[', '7', ']']], [⟨7, .decimal⟩, ⟨0, .decimal⟩, ⟨0, .decimal⟩, ⟨0, .decimal⟩],
      8, 4, none⟩
    ∃ p s₁ x v, s.ids.Nodup ∧ s.evaluate = .ok (p, s₁) ∧ p.lines[0]? = some x ∧ x.result = some v
      ∧ (∃ line, p.lines[2]? = some line ∧ line.result = some v)
      ∧ ∃ line, p.lines[3]? = some line ∧ line.result = some v := by
  intro s
  have nodup : s.ids.Nodup := by decide
  obtain ⟨⟨p, s₁⟩, evaluated, succeeds⟩ : ∃ r, s.evaluate = .ok r
      ∧ (r.1.lines[0]?.bind (·.result)).isSome := by decide +kernel
  obtain ⟨v, first⟩ := Option.isSome_iff_exists.1 succeeds
  obtain ⟨x, found, result⟩ := Option.bind_eq_some_iff.1 first
  have quiet : ∀ r, 0 < r → r < 2 → ∀ row line, s.rows[r]? = some row → p.lines[r]? = some line →
      Assignment.target? (row.text.take Pass.maxWidth) = some ['t', 'o'] →
      line.result = none := by
    intro r after before row line at_r _ target
    obtain rfl : r = 1 := by omega
    obtain rfl := Option.some.inj at_r
    exact absurd target (by decide)
  have space : ∀ c ∈ [' '], Text.isBlank c = true := List.forall_mem_singleton.2 (by decide)
  have name : StandsAlone ['t', 'o'] [' ', 't', 'o', ' '] := ⟨[' '], [' '], space, space, rfl⟩
  have reference : StandsAlone (Reference.text 7) ['&', '[', '7', ']'] :=
    ⟨[], [], nofun, nofun, by decide⟩
  have byName := (result_of_standsAlone nodup evaluated (show 0 < 2 by decide) (by decide) rfl rfl
    found result (by decide)).1 ['t', 'o'] (by decide) (by decide) quiet name
  have byId := (result_of_standsAlone nodup evaluated (show 0 < 3 by decide) (by decide) rfl rfl
    found result (by decide)).2 (by decide) reference
  exact ⟨p, s₁, x, v, nodup, evaluated, found, result, byName, byId⟩

/-- A reference that does not fit into the width of a line is not read. -/
theorem not_forall_result_of_reference :
    ¬ ∀ (s s₁ : Sheet) (p : Pass) (above below : Row) (x : LineResult) (v : Value) (i j : Nat),
      (∀ id ∈ s.ids, 0 < id) → s.ids.Nodup → s.evaluate = .ok (p, s₁) → i < j →
      j < Pass.maxRows → s.rows[i]? = some above → s.rows[j]? = some below →
      p.lines[i]? = some x → x.result = some v → 0 < above.id →
      below.text = Reference.text above.id →
      ∃ line, p.lines[j]? = some line ∧ line.result = some v := by
  intro always
  let id : LineId := 10 ^ 117
  let s : Sheet := ⟨[['5'], Reference.text id], [⟨id, .decimal⟩, ⟨0, .decimal⟩], id + 1, 4, none⟩
  obtain ⟨⟨p, s₁⟩, evaluated, succeeds, other⟩ : ∃ r, s.evaluate = .ok r
      ∧ (r.1.lines[0]?.bind (·.result)).isSome
      ∧ r.1.lines[1]?.bind (·.result) ≠ r.1.lines[0]?.bind (·.result) := by decide +kernel
  obtain ⟨v, first⟩ := Option.isSome_iff_exists.1 succeeds
  obtain ⟨x, found, result⟩ := Option.bind_eq_some_iff.1 first
  obtain ⟨line, second, same⟩ := always s s₁ p _ _ x v 0 1 (by decide) (by decide) evaluated
    (by decide) (by decide) rfl rfl found result (by decide) rfl
  exact other (by rw [first, second, Option.bind_some, same])

end Sheet
end CalcSheet
