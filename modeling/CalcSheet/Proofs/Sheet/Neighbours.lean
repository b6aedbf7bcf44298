import CalcSheet.Proofs.Sheet.Edits
import CalcSheet.Proofs.Sheet.States

/-!
# Neighbouring rows

Two rows one below the other that do not mention each other can be exchanged. What is bound after
them is the same but for the order, which no later row can tell, and for the sum.
-/
namespace CalcSheet

theorem Assignment.infix_of_target? {t n : Text} (found : target? t = some n) : n <:+: t := by
  obtain ⟨a, parsed, rfl⟩ := Option.map_eq_some_iff.1 found
  obtain ⟨rest, whole⟩ := Token.eq_append_of_parse? parsed
  exact ⟨a.lead, a.gap ++ '=' :: rest, by rw [List.append_assoc, ← whole]⟩

variable {α β γ : Type} {xs : List α}

/-- The list with the element at a place and the one behind it exchanged. -/
def exchange : Nat → List α → List α
  | 0, x :: y :: rest => y :: x :: rest
  | r + 1, x :: rest => x :: exchange r rest
  | _, xs => xs

theorem exchange_append {r : Nat} (inside : r + 1 < xs.length) (ys : List α) :
    exchange r (xs ++ ys) = exchange r xs ++ ys := by
  induction r generalizing xs with
  | zero =>
    match xs, inside with
    | _ :: _ :: _, _ => rfl
  | succ r ih =>
    match xs, inside with
    | x :: xs, inside => exact congrArg (x :: ·) (ih (Nat.lt_of_succ_lt_succ inside))

theorem take_exchange {r n : Nat} (inside : r + 1 < n) (xs : List α) :
    (exchange r xs).take n = exchange r (xs.take n) := by
  induction r generalizing n xs with
  | zero =>
    match n, inside, xs with
    | n + 2, _, [] => rfl
    | n + 2, _, [_] => rfl
    | n + 2, _, _ :: _ :: _ => rfl
  | succ r ih =>
    match n, inside, xs with
    | n + 1, _, [] => rfl
    | n + 1, inside, x :: xs => exact congrArg (x :: ·) (ih (Nat.lt_of_succ_lt_succ inside) xs)

theorem drop_exchange {r n : Nat} (inside : r + 1 < n) (xs : List α) :
    (exchange r xs).drop n = xs.drop n := by
  induction r generalizing n xs with
  | zero =>
    match n, inside, xs with
    | n + 2, _, [] => rfl
    | n + 2, _, [_] => rfl
    | n + 2, _, _ :: _ :: _ => rfl
  | succ r ih =>
    match n, inside, xs with
    | n + 1, _, [] => rfl
    | n + 1, inside, x :: xs => exact ih (Nat.lt_of_succ_lt_succ inside) xs

theorem zipWith_exchange {f : α → β → γ} {ys : List β} (r : Nat) (length : xs.length = ys.length) :
    List.zipWith f (exchange r xs) (exchange r ys) = exchange r (List.zipWith f xs ys) := by
  induction r generalizing xs ys with
  | zero =>
    match xs, ys, length with
    | [], [], _ => rfl
    | [_], [_], _ => rfl
    | _ :: _ :: _, _ :: _ :: _, _ => rfl
  | succ r ih =>
    match xs, ys, length with
    | [], [], _ => rfl
    | x :: xs, y :: ys, length => exact congrArg (f x y :: ·) (ih (Nat.succ.inj length))

namespace Pass

variable {places : Int} {s s' next next' : State} {row a b : Row} {rows : List Row}
  {line line' x y x' y' : LineResult} {lines lines' : List LineResult} {p p' : Pass} {r : Nat}
  {t : Text}

/-! ### Rows that are not mentioned -/

/-- A text mentions nothing that a row binds: neither the name that the row assigns its result to
nor its identifier. -/
structure Unmentioned (row : Row) (line : LineResult) (t : Text) : Prop where
  name : ∀ n, assigned? row line = some n → ¬ n <:+: t
  id : row.id ≠ 0 → ¬ Reference.text row.id <:+: t

instance : Decidable (Unmentioned row line t) :=
  decidable_of_iff ((∀ n ∈ assigned? row line, ¬ n <:+: t)
      ∧ (row.id ≠ 0 → ¬ Reference.text row.id <:+: t))
    ⟨fun h => ⟨fun n assigned => h.1 n assigned, h.2⟩, fun h => ⟨fun n mem => h.name n mem, h.id⟩⟩

/-- A line that does not mention a row finds the same values before and after it. -/
theorem Evaluates.agreeOn (h : Evaluates places s row line next)
    (unmentioned : Unmentioned row line t) (noSum : ¬ sumName <:+: t) :
    s.environment.AgreeOn t next.environment := by
  refine State.agreeOn_environment noSum (fun n occurs => ?_) fun id occurs => ?_
  · have other : n ≠ sumName := fun sum => noSum (sum ▸ occurs)
    rw [h.lookup_bindings other, if_neg fun assigned => unmentioned.name n assigned occurs]
  · rw [h.lookup_references, if_neg]
    rintro ⟨held, rfl⟩
    exact unmentioned.id held occurs

/-- A row has the same result wherever the names that occur in it have the same values. -/
theorem Evaluates.line_eq (h : Evaluates places s row line next)
    (h' : Evaluates places s' row line' next') (named : s.WellNamed)
    (agree : s.environment.AgreeOn (row.text.take maxWidth) s'.environment) : line' = line :=
  (h.unique h' rfl (named.evaluate_eq agree)).1 rfl

/-- A row with the same result in similar states leaves similar states behind. -/
theorem Evaluates.similar (h : Evaluates places s row line next)
    (h' : Evaluates places s' row line next') (named : s.WellNamed) (named' : s'.WellNamed)
    (similar : s.Similar s') : next.Similar next' where
  bindings n := by
    by_cases sum : n = sumName
    · rw [sum, (h.wellNamed named).lookup_sumName, (h'.wellNamed named').lookup_sumName]
    · rw [h.lookup_bindings sum, h'.lookup_bindings sum, similar.bindings]
  references id := by rw [h.lookup_references, h'.lookup_references, similar.references]

/-- Rows that do not mention the sum have the same results in similar states. -/
theorem evaluateRows_similar (named : s.WellNamed) (named' : s'.WellNamed) (similar : s.Similar s')
    (noSum : ∀ row ∈ rows, ¬ sumName <:+: row.text.take maxWidth)
    (h : evaluateRows places s rows = .ok (lines, next))
    (h' : evaluateRows places s' rows = .ok (lines', next')) :
    lines' = lines ∧ next.WellNamed ∧ next'.WellNamed ∧ next.Similar next' := by
  induction rows generalizing s s' lines lines' with
  | nil =>
    obtain ⟨rfl, rfl⟩ := Prod.mk.inj (Except.ok.inj h)
    obtain ⟨rfl, rfl⟩ := Prod.mk.inj (Except.ok.inj h')
    exact ⟨rfl, named, named', similar⟩
  | cons row rows ih =>
    obtain ⟨here, later⟩ := List.forall_mem_cons.1 noSum
    obtain ⟨line, middle, others, evaluated, rest, rfl⟩ := evaluateRows_cons_eq_ok h
    obtain ⟨line', middle', others', evaluated', rest', rfl⟩ := evaluateRows_cons_eq_ok h'
    have first := evaluates_of_evaluateRow evaluated
    have first' := evaluates_of_evaluateRow evaluated'
    obtain rfl := first.line_eq first' named
      (State.agreeOn_environment here (fun n _ => similar.bindings n)
        fun id _ => similar.references id)
    obtain ⟨rfl, after⟩ := ih (first.wellNamed named) (first'.wellNamed named')
      (first.similar first' named named' similar) later rest rest'
    exact ⟨rfl, after⟩

/-! ### Exchanging two rows -/

/-- Two rows that do not mention each other have the same results in either order, and leave similar
states behind. -/
theorem similar_of_exchange {s₁ s₂ s₁' s₂' : State} (named : s.WellNamed)
    (unmentioned : Unmentioned a x (b.text.take maxWidth))
    (unmentioned' : Unmentioned b y (a.text.take maxWidth)) (apart : a.id ≠ 0 → b.id ≠ a.id)
    (noSum : ¬ sumName <:+: a.text.take maxWidth) (noSum' : ¬ sumName <:+: b.text.take maxWidth)
    (first : Evaluates places s a x s₁) (second : Evaluates places s₁ b y s₂)
    (first' : Evaluates places s b y' s₁') (second' : Evaluates places s₁' a x' s₂') :
    x' = x ∧ y' = y ∧ s₂.WellNamed ∧ s₂'.WellNamed ∧ s₂.Similar s₂' := by
  obtain rfl : y = y' := first'.line_eq second named (first.agreeOn unmentioned noSum')
  obtain rfl : x' = x := first.line_eq second' named (first'.agreeOn unmentioned' noSum)
  have after := second.wellNamed (first.wellNamed named)
  have after' := second'.wellNamed (first'.wellNamed named)
  refine ⟨rfl, rfl, after, after', fun n => ?_, fun id => ?_⟩
  · by_cases sum : n = sumName
    · rw [sum, after.lookup_sumName, after'.lookup_sumName]
    · rw [second.lookup_bindings sum, first.lookup_bindings sum, second'.lookup_bindings sum,
        first'.lookup_bindings sum]
      by_cases here : assigned? a x' = some n
      · -- a name that both assign to would occur in either row
        have occurs := Assignment.infix_of_target? (target?_of_assigned? here)
        have other : assigned? b y ≠ some n := fun there => unmentioned'.name n there occurs
        simp only [if_pos here, if_neg other]
      · simp only [if_neg here]
  · rw [second.lookup_references, first.lookup_references, second'.lookup_references,
      first'.lookup_references]
    by_cases here : a.id ≠ 0 ∧ id = a.id
    · have other : ¬ (b.id ≠ 0 ∧ id = b.id) := fun there =>
        apart here.1 (there.2.symm.trans here.2)
      simp only [if_pos here, if_neg other]
    · simp only [if_neg here]

theorem evaluateRows_exchange (named : s.WellNamed) (at_r : rows[r]? = some a)
    (at_next : rows[r + 1]? = some b) (found : lines[r]? = some x)
    (found_next : lines[r + 1]? = some y) (unmentioned : Unmentioned a x (b.text.take maxWidth))
    (unmentioned' : Unmentioned b y (a.text.take maxWidth)) (apart : a.id ≠ 0 → b.id ≠ a.id)
    (noSum : ∀ row ∈ rows.drop r, ¬ sumName <:+: row.text.take maxWidth)
    (h : evaluateRows places s rows = .ok (lines, next))
    (h' : evaluateRows places s (exchange r rows) = .ok (lines', next')) :
    lines' = exchange r lines ∧ next.WellNamed ∧ next'.WellNamed ∧ next.Similar next' := by
  induction r generalizing s rows lines lines' with
  | zero =>
    obtain ⟨rest, rfl⟩ : ∃ rest, rows = a :: b :: rest := by
      match rows, at_r, at_next with
      | _ :: _ :: rest, rfl, rfl => exact ⟨rest, rfl⟩
    obtain ⟨_, s₁, _, first, below, rfl⟩ := evaluateRows_cons_eq_ok h
    obtain ⟨_, s₂, others, second, tail, rfl⟩ := evaluateRows_cons_eq_ok below
    obtain ⟨y', s₁', _, first', below', rfl⟩ := evaluateRows_cons_eq_ok h'
    obtain ⟨x', s₂', others', second', tail', rfl⟩ := evaluateRows_cons_eq_ok below'
    obtain rfl := Option.some.inj found
    obtain rfl := Option.some.inj found_next
    obtain ⟨rfl, rfl, after, after', similar⟩ := similar_of_exchange named unmentioned unmentioned'
      apart (noSum a List.mem_cons_self) (noSum b (by simp)) (evaluates_of_evaluateRow first)
      (evaluates_of_evaluateRow second) (evaluates_of_evaluateRow first')
      (evaluates_of_evaluateRow second')
    obtain ⟨rfl, ends⟩ := evaluateRows_similar after after' similar
      (fun row mem => noSum row (by simp [mem])) tail tail'
    exact ⟨rfl, ends⟩
  | succ r ih =>
    cases rows with
    | nil => exact nomatch at_r
    | cons row rows =>
      obtain ⟨line, middle, others, evaluated, rest, rfl⟩ := evaluateRows_cons_eq_ok h
      obtain ⟨line', middle', others', evaluated', rest', rfl⟩ := evaluateRows_cons_eq_ok h'
      obtain ⟨rfl, rfl⟩ := Prod.mk.inj (Except.ok.inj (evaluated.symm.trans evaluated'))
      obtain ⟨rfl, ends⟩ := ih ((evaluates_of_evaluateRow evaluated).wellNamed named) at_r at_next
        found found_next noSum rest rest'
      exact ⟨rfl, ends⟩

theorem filter_allBindings (named : s.WellNamed) :
    s.allBindings.filter (·.1 ≠ sumName) = s.bindings := by
  have others : s.bindings.filter (·.1 ≠ sumName) = s.bindings :=
    List.filter_eq_self.2 fun b mem => by simpa using (named.target b.1 (List.mem_map_of_mem mem)).1
  rw [State.allBindings, List.filter_cons_of_neg (by simp), others]

theorem ofRows_exchange (inside : r + 1 < maxRows) (at_r : rows[r]? = some a)
    (at_next : rows[r + 1]? = some b) (found : p.lines[r]? = some x)
    (found_next : p.lines[r + 1]? = some y) (unmentioned : Unmentioned a x (b.text.take maxWidth))
    (unmentioned' : Unmentioned b y (a.text.take maxWidth)) (apart : a.id ≠ 0 → b.id ≠ a.id)
    (noSum : ∀ row ∈ rows.drop r, ¬ sumName <:+: row.text.take maxWidth)
    (h : ofRows places rows = .ok p) (h' : ofRows places (exchange r rows) = .ok p') :
    p'.lines = exchange r p.lines
      ∧ (p'.bindings.filter (·.1 ≠ sumName)).Perm (p.bindings.filter (·.1 ≠ sumName))
      ∧ p'.references.Perm p.references := by
  obtain ⟨⟨lines, last⟩, evaluated, done⟩ := bind_eq_ok h
  obtain rfl := Except.ok.inj done
  obtain ⟨⟨lines', last'⟩, evaluated', done'⟩ := bind_eq_ok h'
  obtain rfl := Except.ok.inj done'
  rw [take_exchange inside] at evaluated'
  have count : r + 1 < lines.length := by
    have bound := (List.getElem?_eq_some_iff.1 at_next).1
    rw [length_evaluateRows evaluated, List.length_take]
    omega
  obtain ⟨rfl, named, named', similar⟩ := evaluateRows_exchange State.wellNamed_initial
    (by rw [List.getElem?_take_of_lt (Nat.lt_of_succ_lt inside), at_r])
    (by rw [List.getElem?_take_of_lt inside, at_next])
    (by rwa [List.getElem?_append_left (Nat.lt_of_succ_lt count)] at found)
    (by rwa [List.getElem?_append_left count] at found_next) unmentioned unmentioned' apart
    (fun row mem => noSum row (List.mem_of_mem_take (List.drop_take ▸ mem))) evaluated evaluated'
  obtain ⟨bindings, references⟩ := similar.perm named named'
  refine ⟨?_, ?_, references⟩
  · rw [exchange_append count, drop_exchange inside]
  · rwa [filter_allBindings named, filter_allBindings named']

end Pass

namespace Sheet

/-- The sheet with a line and the one below it exchanged, together with what belongs to them. -/
def exchange (s : Sheet) (r : Nat) : Sheet :=
  { s with texts := CalcSheet.exchange r s.texts, data := CalcSheet.exchange r s.data }

theorem rows_exchange {s : Sheet} (paired : s.Paired) (r : Nat) :
    (s.exchange r).rows = CalcSheet.exchange r s.rows :=
  zipWith_exchange r paired.symm

/-- Two rows that do not mention each other may be exchanged, if neither they nor the rows below
mention the sum: the two exchange their results, all others keep theirs, and the same is bound to
all names other than `sum` and to all identifiers, but for the order. -/
theorem evaluate_exchange {s s₁ s₁' : Sheet} {p p' : Pass} {r : Nat} {a b : Row} {x y : LineResult}
    (paired : s.Paired) (inside : r + 1 < Pass.maxRows) (at_r : s.rows[r]? = some a)
    (at_next : s.rows[r + 1]? = some b) (apart : a.id ≠ 0 → b.id ≠ a.id)
    (evaluated : s.evaluate = .ok (p, s₁)) (evaluated' : (s.exchange r).evaluate = .ok (p', s₁'))
    (found : p.lines[r]? = some x) (found_next : p.lines[r + 1]? = some y)
    (unmentioned : Pass.Unmentioned a x (b.text.take Pass.maxWidth))
    (unmentioned' : Pass.Unmentioned b y (a.text.take Pass.maxWidth))
    (noSum : ∀ row ∈ s.rows.drop r, ¬ Pass.sumName <:+: row.text.take Pass.maxWidth) :
    p'.lines = CalcSheet.exchange r p.lines
      ∧ (p'.bindings.filter (·.1 ≠ Pass.sumName)).Perm (p.bindings.filter (·.1 ≠ Pass.sumName))
      ∧ p'.references.Perm p.references := by
  obtain ⟨passed, -⟩ := evaluate_eq_ok.1 evaluated
  obtain ⟨passed', -⟩ := evaluate_eq_ok.1 evaluated'
  rw [rows_exchange paired] at passed'
  exact Pass.ofRows_exchange inside at_r at_next found found_next unmentioned unmentioned' apart
    noSum passed passed'

/-- The last row mentions the first two by the name of the one and the identifier of the other. -/
theorem evaluate_exchange_product :
    let s : Sheet := ⟨[['x', '=', '2'], ['y', '=', '3'], ['x', '*', '&', '[', '2', ']']],
      [⟨1, .decimal⟩, ⟨2, .decimal⟩, ⟨0, .decimal⟩], 3, 4, none⟩
    ∃ p s₁ p' s₁', s.evaluate = .ok (p, s₁) ∧ (s.exchange 0).evaluate = .ok (p', s₁')
      ∧ p'.lines = CalcSheet.exchange 0 p.lines
      ∧ (p'.bindings.filter (·.1 ≠ Pass.sumName)).Perm (p.bindings.filter (·.1 ≠ Pass.sumName))
      ∧ p'.references.Perm p.references := by
  intro s
  let a : Row := ⟨['x', '=', '2'], 1, .decimal⟩
  let b : Row := ⟨['y', '=', '3'], 2, .decimal⟩
  obtain ⟨⟨p, s₁⟩, evaluated, count, first, second⟩ : ∃ r, s.evaluate = .ok r
      ∧ r.1.lines.length = 3 ∧ (∀ x ∈ r.1.lines[0]?, Pass.Unmentioned a x b.text)
      ∧ ∀ y ∈ r.1.lines[1]?, Pass.Unmentioned b y a.text := by
    decide +kernel
  obtain ⟨⟨p', s₁'⟩, evaluated', -⟩ : ∃ r, (s.exchange 0).evaluate = .ok r ∧ True := by
    decide +kernel
  have paired : s.Paired := rfl
  have found := List.getElem?_eq_getElem (show 0 < p.lines.length from count ▸ by decide)
  have found_next := List.getElem?_eq_getElem (show 1 < p.lines.length from count ▸ by decide)
  exact ⟨p, s₁, p', s₁', evaluated, evaluated', evaluate_exchange (a := a) (b := b) paired
    (by decide) rfl rfl (by decide) evaluated evaluated' found found_next (first _ found)
    (second _ found_next) (by decide)⟩

end Sheet
end CalcSheet
