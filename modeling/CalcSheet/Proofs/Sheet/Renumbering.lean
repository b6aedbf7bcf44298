import CalcSheet.Proofs.Display.Texts
import CalcSheet.Proofs.Evaluation.Renaming
import CalcSheet.Proofs.Sheet.States

/-!
# Passes over renumbered rows

Rows whose identifiers are changed together with the references to them have the same results, row
by row. Their results are displayed in decimals, which may fail only where another base was asked
for before.
-/
namespace CalcSheet
open Reference

variable {f : Nat → Nat} {g : LineId → LineId}

/-- A row and the one that takes its place. The references of its text are renumbered by `f`, and
`g` gives the new identifiers of the lines that have had one; it gives no line that had none. -/
structure Row.Renumbered (f : Nat → Nat) (g : LineId → LineId) (row row' : Row) : Prop where
  text : row'.text = rewritten f row.text
  width : row.text.length ≤ Pass.maxWidth
  width' : row'.text.length ≤ Pass.maxWidth
  canonical : ∀ digits, .reference digits ∈ pieces row.text → Digits.IsCanonical digits
  named : ∀ digits, .reference digits ∈ pieces row.text →
    f (Text.naturalOf digits) ≠ 0 ∧ g (Text.naturalOf digits) = f (Text.naturalOf digits)
  pos : 0 < row'.id
  id : ∀ k, g k = row'.id ↔ row.id ≠ 0 ∧ k = row.id
  base : row'.base = .decimal

namespace Reference

theorem length_text_le {piece : Piece} {t : Text} (mem : piece ∈ pieces t) :
    piece.text.length ≤ t.length := by
  conv_rhs => rw [← flatMap_text_pieces t]
  exact (List.sublist_flatten_of_mem (List.mem_map_of_mem mem)).length_le

theorem length_rewritten_le {piece : Piece} {t : Text} (mem : piece ∈ pieces t) :
    (piece.rewritten f).length ≤ (rewritten f t).length :=
  (List.sublist_flatten_of_mem (List.mem_map_of_mem mem)).length_le

end Reference

/-- What can be referred to in the same place before and after. -/
theorem Row.Renumbered.renamed {row row' : Row} (h : row.Renumbered f g row')
    {ids ids' : List LineId} (known : ∀ k, k ∈ ids ↔ g k ∈ ids') (digits : Text)
    (mem : .reference digits ∈ pieces row.text) : Token.Renamed f g ids ids' digits := by
  obtain ⟨pos, named⟩ := h.named digits mem
  have width := Nat.le_trans (length_text_le mem) h.width
  have width' := Nat.le_trans (length_rewritten_le (f := f) mem) (h.text ▸ h.width')
  have short : Pass.maxWidth ≤ Digits.maxLength := by decide
  simp only [Piece.text, Piece.rewritten, text_natCast, length_written] at width width'
  exact ⟨h.canonical digits mem, by omega, pos, by omega, named, named ▸ known _⟩

namespace Pass
variable {s s' next : State} {row row' : Row} {places : Int} {line : LineResult}

/-- The same sum and variables, and the same results of the lines under their new identifiers. -/
structure State.Renumbered (g : LineId → LineId) (s s' : State) : Prop where
  sum : s'.sum = s.sum
  bindings : s'.bindings = s.bindings
  plain : ∀ b ∈ s.bindings, b.1 ≠ [] ∧ '&' ∉ b.1
  references : ∀ k, s'.references.lookup (g k) = s.references.lookup k
  pos : ∀ r ∈ s'.references, 0 < r.1

namespace State

namespace Renumbered

theorem initial : State.initial.Renumbered g .initial where
  sum := rfl
  bindings := rfl
  plain := by simp [State.initial]
  references := by simp [State.initial]
  pos := by simp [State.initial]

theorem agrees (h : s.Renumbered g s') : s.environment.Agrees g s'.environment where
  valueOf? name := by
    simp only [environment, allBindings, Environment.valueOf?, h.sum, h.bindings]
  resultOf? line := by
    rw [resultOf?_environment, resultOf?_environment, h.references]

theorem known (h : s.Renumbered g s') (k : LineId) :
    k ∈ s.references.map Prod.fst ↔ g k ∈ s'.references.map Prod.fst := by
  rw [Bindings.mem_keys_iff, Bindings.mem_keys_iff, h.references]

theorem arePlain (h : s.Renumbered g s') :
    Token.ArePlain (sumName :: s.bindings.map Prod.fst) := by
  intro v hv
  rcases List.mem_cons.1 hv with rfl | hv
  · decide
  · obtain ⟨b, hb, rfl⟩ := List.mem_map.1 hv
    exact h.plain b hb

/-- A result recorded in both states. -/
theorem recorded (h : s.Renumbered g s') {id id' : LineId} {target? : Option Text} {v : Value}
    (plain : ∀ name, target? = some name → name ≠ [] ∧ '&' ∉ name) (pos : 0 < id')
    (renumbered : ∀ k, g k = id' ↔ id ≠ 0 ∧ k = id) (done : s.record target? id v = .ok next) :
    ∃ next', s'.record target? id' v = .ok next' ∧ next.Renumbered g next' := by
  obtain ⟨sum, summed, done⟩ := bind_eq_ok done
  obtain rfl := Except.ok.inj done
  have new : id' ≠ 0 := Int.ne_of_gt pos
  refine ⟨_, by rw [State.record.eq_def, h.sum, summed]; rfl, ?_⟩
  constructor
  · rfl
  · simp only [h.bindings]
  · intro b hb
    dsimp only at hb
    split at hb
    · split at hb
      · exact h.plain b hb
      · rcases Bindings.mem_of_mem_bind hb with rfl | hb
        · exact plain _ rfl
        · exact h.plain b hb
    · exact h.plain b hb
  · intro k
    simp only [if_neg new]
    -- under the new identifier stands the old one's line, if it had one, and no other
    by_cases here : id ≠ 0 ∧ k = id
    · obtain ⟨held, rfl⟩ := here
      rw [(renumbered k).2 ⟨held, rfl⟩, if_neg held, Bindings.lookup_bind_self,
        Bindings.lookup_bind_self]
    · have other : g k ≠ id' := fun same => here ((renumbered k).1 same)
      rw [Bindings.lookup_bind_of_ne _ _ other, h.references]
      split
      · rfl
      · next held =>
        rw [Bindings.lookup_bind_of_ne _ _ fun same => here ⟨held, same⟩]
  · intro r hr
    dsimp only at hr
    rw [if_neg new] at hr
    rcases Bindings.mem_of_mem_bind hr with rfl | hr
    · exact pos
    · exact h.pos r hr

end Renumbered
end State

/-- The same result, shown in the same way where it was shown in decimals. -/
structure Agree (row : Row) (line line' : LineResult) : Prop where
  result : line'.result = line.result
  isAssignment : line'.isAssignment = line.isAssignment
  shown : row.base = .decimal → line'.shown = line.shown

/-- A result that was not shown in decimals cannot be. -/
def Unshowable (places : Int) (base : Numeral.Base) (line : LineResult) (fault : DisplayFault) :
    Prop :=
  base ≠ .decimal ∧ ∃ v, line.result = some v
    ∧ ∃ converted, Displayed.ofValue .decimal converted places v = .error fault

theorem Agree.plain (row : Row) (tokens tokens' : List Token) :
    Agree row (.plain tokens) (.plain tokens') := ⟨rfl, rfl, fun _ => rfl⟩

/-- A line is calculated with the same result after renumbering. -/
theorem lineEvaluate_renumbered (renumbered : row.Renumbered f g row') (h : s.Renumbered g s')
    (calculated : isTextLine row.text = false) {tokens : List Token} {outcome? : Option Outcome}
    (evaluated : Line.evaluate s.environment s.environment.knownNames row.text
      = .ok (tokens, outcome?)) :
    ∃ tokens', Line.evaluate s'.environment s'.environment.knownNames row'.text
      = .ok (tokens', outcome?) := by
  obtain ⟨scanned, calculation⟩ := Line.parts_of_evaluate evaluated
  have nonneg : ∀ id ∈ s'.references.map Prod.fst, 0 ≤ id := by
    intro id hid
    obtain ⟨r, hr, rfl⟩ := List.mem_map.1 hid
    exact Int.le_of_lt (h.pos r hr)
  rw [State.knownNames_environment] at scanned
  obtain ⟨tokens', scanned', same⟩ := Token.scan_rewritten h.arePlain nonneg calculated
    (renumbered.renamed h.known) scanned
  rw [← renumbered.text, ← h.bindings, ← State.knownNames_environment] at scanned'
  refine ⟨tokens', ?_⟩
  rw [Line.evaluate, scanned']
  change (Outcome.ofSteps s'.environment (Postfix.ofTokens tokens')).mapError
    LineFault.calculation >>= _ = _
  rw [Outcome.ofTokens_rename h.agrees same, calculation]
  rfl

theorem evaluateRow_textLine (fits : row.text.length ≤ maxWidth)
    (kind : isTextLine row.text = true) :
    evaluateRow places s row = .ok (.plain [⟨.text row.text, 0, row.text.length⟩],
      if restartsSum row.text then { s with sum := none } else s) := by
  have scanned : Token.scan row.text [] = .ok [⟨.text row.text, 0, row.text.length⟩] := by
    rw [Token.scan, if_pos kind]
  rw [evaluateRow, List.take_of_length_le fits, if_pos kind, scanned]
  rfl

theorem evaluateRow_calculated (fits : row.text.length ≤ maxWidth)
    (kind : isTextLine row.text = false) :
    evaluateRow places s row
      = Line.evaluate s.environment s.environment.knownNames row.text >>= fun
        | (tokens, none) => .ok (.plain tokens, s)
        | (tokens, some o) => conclude places s row row.text tokens o := by
  rw [evaluateRow, List.take_of_length_le fits, kind]
  simp only [Bool.false_eq_true, ↓reduceIte]
  congr 1
  funext ⟨tokens, outcome?⟩
  cases outcome? <;> rfl

/-- Nothing new is remarked on in decimals: a number has a text there, and a matrix has none in any
base. -/
theorem remark_decimal {base : Numeral.Base} {converted : Bool} {v : Value}
    {shown shown' : Displayed} (displayed : Displayed.ofValue base converted places v = .ok shown)
    (displayed' : Displayed.ofValue .decimal converted places v = .ok shown') {remark : Text}
    (remarked : (if shown.text.isEmpty then v.written else .ok []) = .ok remark) :
    ∃ remark, (if shown'.text.isEmpty then v.written else .ok []) = .ok remark := by
  cases v with
  | number q =>
    have text := Displayed.text_ne_nil displayed'
    exact ⟨[], by simp [text]⟩
  | matrix m =>
    rw [Displayed.text_matrix displayed] at remarked
    rw [Displayed.text_matrix displayed']
    exact ⟨remark, remarked⟩

theorem conclude_renumbered (renumbered : row.Renumbered f g row') (h : s.Renumbered g s')
    {tokens : List Token} {o : Outcome} (tokens' : List Token)
    (concluded : conclude places s row row.text tokens o = .ok (line, next)) :
    (∃ line' next', conclude places s' row' row'.text tokens' o = .ok (line', next')
        ∧ Agree row line line' ∧ next.Renumbered g next')
      ∨ ∃ fault, Unshowable places row.base line fault
        ∧ conclude places s' row' row'.text tokens' o = .error (.display fault) := by
  obtain ⟨_, recorded, concluded⟩ := bind_eq_ok concluded
  obtain ⟨shown, displayed, concluded⟩ := bind_eq_ok concluded
  obtain ⟨remark, remarked, done⟩ := bind_eq_ok concluded
  obtain ⟨rfl, rfl⟩ := Prod.mk.inj (Except.ok.inj done)
  have target : Assignment.target? row'.text = Assignment.target? row.text := by
    rw [Assignment.target?, renumbered.text, ← Assignment.parse?_alike (Alike.rewritten f _)]
    rfl
  have plain : ∀ name, (if o.isAssignment then Assignment.target? row.text else none) = some name →
      name ≠ [] ∧ '&' ∉ name := by
    intro name assigned
    split at assigned
    · exact Assignment.target?_plain assigned
    · exact nomatch assigned
  obtain ⟨next', recorded', after⟩ := h.recorded plain renumbered.pos renumbered.id
    (mapError_eq_ok recorded)
  have displayed := mapError_eq_ok displayed
  simp only [conclude, target, recorded', renumbered.base, Line.display]
  -- the row had a base of its own; the one in its place is always displayed in decimals
  cases displayed' : Displayed.ofValue .decimal o.converted places o.result with
  | ok shown' =>
    obtain ⟨remark', remarked'⟩ := remark_decimal displayed displayed' (mapError_eq_ok remarked)
    left
    refine ⟨⟨some o.result, shown', tokens', o.isAssignment⟩, next', ?_, ⟨rfl, rfl, fun base => ?_⟩,
      after⟩
    · simp only [Except.mapError, bind, Except.bind, remarked']
      rfl
    · rw [base, displayed'] at displayed
      exact Except.ok.inj displayed
  | error fault =>
    right
    refine ⟨fault, ⟨fun base => ?_, o.result, rfl, o.converted, displayed'⟩, rfl⟩
    rw [base, displayed'] at displayed
    exact nomatch displayed

/-- A row has the same result after renumbering, unless it cannot be shown. -/
theorem evaluateRow_renumbered (renumbered : row.Renumbered f g row') (h : s.Renumbered g s')
    (evaluated : evaluateRow places s row = .ok (line, next)) :
    (∃ line' next', evaluateRow places s' row' = .ok (line', next')
        ∧ Agree row line line' ∧ next.Renumbered g next')
      ∨ ∃ fault, Unshowable places row.base line fault
        ∧ evaluateRow places s' row' = .error (.display fault) := by
  have alike := renumbered.text ▸ Alike.rewritten f row.text
  have kind' := isTextLine_alike alike
  cases kind : isTextLine row.text with
  | true =>
    rw [evaluateRow_textLine renumbered.width kind] at evaluated
    obtain ⟨rfl, rfl⟩ := Prod.mk.inj (Except.ok.inj evaluated)
    rw [evaluateRow_textLine renumbered.width' (kind' ▸ kind), ← restartsSum_alike alike]
    refine .inl ⟨_, _, rfl, .plain row _ _, ?_⟩
    split
    · exact { h with sum := rfl }
    · exact h
  | false =>
    rw [evaluateRow_calculated renumbered.width kind] at evaluated
    obtain ⟨⟨tokens, outcome?⟩, calculation, concluded⟩ := bind_eq_ok evaluated
    obtain ⟨tokens', calculation'⟩ := lineEvaluate_renumbered renumbered h kind calculation
    rw [evaluateRow_calculated renumbered.width' (kind' ▸ kind), calculation']
    cases outcome? with
    | none =>
      obtain ⟨rfl, rfl⟩ := Prod.mk.inj (Except.ok.inj concluded)
      exact .inl ⟨_, _, rfl, .plain row _ _, h⟩
    | some o => exact conclude_renumbered renumbered h tokens' concluded

/-- The results of rows, and those of the rows in their places. -/
inductive AgreeAll : List Row → List LineResult → List LineResult → Prop where
  | nil : AgreeAll [] [] []
  | cons {row : Row} {rows : List Row} {line line' : LineResult} {lines lines' : List LineResult} :
      Agree row line line' → AgreeAll rows lines lines' →
      AgreeAll (row :: rows) (line :: lines) (line' :: lines')

variable {rows rows' : List Row} {lines lines' : List LineResult} {last : State}

/-- All rows have the same results after renumbering, unless one of them cannot be shown. -/
theorem evaluateRows_renumbered (renumbered : List.Forall₂ (Row.Renumbered f g) rows rows')
    (h : s.Renumbered g s') (evaluated : evaluateRows places s rows = .ok (lines, last)) :
    (∃ lines' last', evaluateRows places s' rows' = .ok (lines', last')
        ∧ AgreeAll rows lines lines' ∧ last.Renumbered g last')
      ∨ ∃ (k : Nat) (row : Row) (line : LineResult) (fault : DisplayFault),
        rows[k]? = some row ∧ lines[k]? = some line
        ∧ Unshowable places row.base line fault
        ∧ evaluateRows places s' rows' = .error (.display fault) := by
  induction renumbered generalizing s s' lines with
  | nil =>
    obtain ⟨rfl, rfl⟩ := Prod.mk.inj (Except.ok.inj evaluated)
    exact .inl ⟨[], s', rfl, .nil, h⟩
  | cons first _ ih =>
    obtain ⟨⟨line, middle⟩, evaluatedRow, evaluated⟩ := bind_eq_ok evaluated
    obtain ⟨⟨others, _⟩, evaluatedRest, done⟩ := bind_eq_ok evaluated
    obtain ⟨rfl, rfl⟩ := Prod.mk.inj (Except.ok.inj done)
    rcases evaluateRow_renumbered first h evaluatedRow with
      ⟨line', middle', row', agree, between⟩ | ⟨fault, unshowable, failed⟩
    · rcases ih between evaluatedRest with
        ⟨others', last', rest', agreeRest, after⟩
          | ⟨k, row, line, fault, at_k, found, unshowable, failed⟩
      · refine .inl ⟨line' :: others', last', ?_, .cons agree agreeRest, after⟩
        simp only [evaluateRows, row', rest', bind, Except.bind]
        rfl
      · refine .inr ⟨k + 1, row, line, fault, at_k, found, unshowable, ?_⟩
        simp only [evaluateRows, row', failed, bind, Except.bind]
    · refine .inr ⟨0, _, line, fault, rfl, rfl, unshowable, ?_⟩
      simp only [evaluateRows, failed, bind, Except.bind]

namespace AgreeAll

theorem append (first : AgreeAll rows lines lines') {rows₂ : List Row}
    {lines₂ lines₂' : List LineResult} (second : AgreeAll rows₂ lines₂ lines₂') :
    AgreeAll (rows ++ rows₂) (lines ++ lines₂) (lines' ++ lines₂') := by
  induction first with
  | nil => exact second
  | cons agree _ ih => exact .cons agree ih

theorem plain (rows rows' : List Row) (h : rows'.length = rows.length) :
    AgreeAll rows (rows.map fun _ => .plain []) (rows'.map fun _ => .plain []) := by
  induction rows generalizing rows' with
  | nil =>
    obtain rfl := List.eq_nil_of_length_eq_zero h
    exact .nil
  | cons row rows ih =>
    cases rows' with
    | nil => exact nomatch h
    | cons row' rows' => exact .cons (.plain row [] []) (ih rows' (Nat.succ.inj h))

theorem results (h : AgreeAll rows lines lines') :
    lines'.map (·.result) = lines.map (·.result) := by
  induction h with
  | nil => rfl
  | cons agree _ ih => simp only [List.map_cons, agree.result, ih]

theorem assignments (h : AgreeAll rows lines lines') :
    lines'.map (·.isAssignment) = lines.map (·.isAssignment) := by
  induction h with
  | nil => rfl
  | cons agree _ ih => simp only [List.map_cons, agree.isAssignment, ih]

theorem shown (h : AgreeAll rows lines lines') {k : Nat} (at_k : rows[k]? = some row)
    (base : row.base = .decimal) : lines'[k]?.map (·.shown) = lines[k]?.map (·.shown) := by
  induction h generalizing k with
  | nil => exact nomatch at_k
  | cons agree _ ih =>
    cases k with
    | zero =>
      obtain rfl := Option.some.inj at_k
      exact congrArg some (agree.shown base)
    | succ k => exact ih at_k

end AgreeAll

/-- A pass gives all rows the same results after renumbering, unless one of them cannot be shown. -/
theorem ofRows_renumbered {p : Pass}
    (renumbered : List.Forall₂ (Row.Renumbered f g) rows rows')
    (evaluated : ofRows places rows = .ok p) :
    (∃ p', ofRows places rows' = .ok p' ∧ AgreeAll rows p.lines p'.lines
        ∧ p'.bindings = p.bindings)
      ∨ ∃ (k : Nat) (row : Row) (line : LineResult) (fault : DisplayFault),
        rows[k]? = some row ∧ p.lines[k]? = some line ∧ Unshowable places row.base line fault
        ∧ ofRows places rows' = .error (.display fault) := by
  obtain ⟨⟨lines, last⟩, evaluatedRows, done⟩ := bind_eq_ok evaluated
  obtain rfl := Except.ok.inj done
  have length := (List.forall₂_drop maxRows renumbered).length_eq
  rcases evaluateRows_renumbered (List.forall₂_take maxRows renumbered) .initial evaluatedRows with
    ⟨lines', last', again, agree, after⟩ | ⟨k, row, line, fault, at_k, found, unshowable, failed⟩
  · refine .inl ⟨_, by rw [ofRows, again]; rfl, ?_, ?_⟩
    · have whole := agree.append (.plain (rows.drop maxRows) (rows'.drop maxRows) length.symm)
      rwa [List.take_append_drop] at whole
    · simp only [State.allBindings, after.sum, after.bindings]
  · refine .inr ⟨k, row, line, fault, ?_, ?_, unshowable, by rw [ofRows, failed]; rfl⟩
    · obtain ⟨bound, rfl⟩ := List.getElem?_eq_some_iff.1 at_k
      rw [List.getElem_take, List.getElem?_eq_getElem]
    · rw [List.getElem?_append_left (List.getElem?_eq_some_iff.1 found).1]
      exact found

/-- The results of all rows make up the bits. -/
theorem resultBits_eq (p : Pass) :
    p.resultBits = (p.lines.map (·.result)).foldr
      (fun result bits => 2 * bits + if result.isSome then 1 else 0) 0 := by
  rw [List.foldr_map]
  rfl

end Pass
end CalcSheet
