import CalcSheet.Proofs.Postfix.Remarks

/-!
# Text between the tokens of a line

Text leaves a gap behind it. Only an operand, an opening bracket or a unit asks whether there is a
gap, and only where an operand has just ended. So text can be left out of a line wherever something
else comes next.
-/
namespace CalcSheet

def Lexeme.isText : Lexeme → Bool
  | .text _ => true
  | _ => false

/-- What is taken differently if text stands between it and an operand. -/
def Lexeme.seesGap : Lexeme → Bool
  | .operand _ | .opening _ | .unit _ => true
  | _ => false

namespace Postfix
variable {s s' : State} {t : Token} {ts : List Token}

namespace State

/-- The state without a gap that stands behind no operand. -/
def visible (s : State) : State := { s with textGap := s.textGap && s.afterOperand }

@[simp] theorem visible_visible (s : State) : s.visible.visible = s.visible := by
  simp [visible]

@[simp] theorem visible_textGap (awaits : s.afterOperand = false) (gap : Bool) :
    visible { s with textGap := gap } = s.visible := by
  simp [visible, awaits]

theorem visible_of_afterOperand (after : s.afterOperand = true) : s.visible = s := by
  obtain ⟨level, frames, afterOperand, gap, assignment⟩ := s
  obtain rfl : afterOperand = true := after
  simp [visible]

/-! ### One token -/

theorem endCell_textGap (gap : Bool) (frame : Frame) (outer : List Frame) (endsRow : Bool) :
    endCell { s with textGap := gap } frame outer endsRow = s.endCell frame outer endsRow := rfl

theorem close_textGap (gap : Bool) (b : Bracket) :
    close { s with textGap := gap } b = s.close b := by
  unfold close
  dsimp only
  split
  · rfl
  · split
    · rfl
    · split
      · simp only [closeMatrix, endCell_textGap]
      · rfl

theorem separate_textGap (gap endsRow : Bool) :
    separate { s with textGap := gap } endsRow = s.separate endsRow := by
  unfold separate
  dsimp only
  split
  · rfl
  · rw [endCell_textGap]

/-- A gap makes no difference where an operand is awaited, or to a token that does not see it. -/
theorem take_textGap (gap : Bool)
    (unseen : s.afterOperand = false ∨ t.lexeme.isText = false ∧ t.lexeme.seesGap = false) :
    (take { s with textGap := gap } t).map visible = (s.take t).map visible := by
  cases lexeme : t.lexeme with
  | text u =>
    have awaits : s.afterOperand = false := by simpa [lexeme, Lexeme.isText] using unseen
    by_cases blank : t.lexeme.isBlank
    · simp only [take_blank blank, Except.map, visible_textGap awaits]
    · simp [take_words ⟨⟨u, lexeme⟩, by simpa using blank⟩]
  | operand o =>
    have awaits : s.afterOperand = false := by simpa [lexeme, Lexeme.seesGap] using unseen
    simp [take, lexeme, beginOperand, awaits, emit, endOperand]
  | opening b =>
    have awaits : s.afterOperand = false := by simpa [lexeme, Lexeme.seesGap] using unseen
    simp [take, lexeme, openBracket, beginOperand, awaits]
  | unit u =>
    have awaits : s.afterOperand = false := by simpa [lexeme, Lexeme.seesGap] using unseen
    simp [take, lexeme, awaits]
  | conversion u => simp [take, lexeme, emit, endOperand]
  | closing b => simp only [take, lexeme, close_textGap]
  | comma => simp only [take, lexeme, separate_textGap]
  | semicolon => simp only [take, lexeme, separate_textGap]
  | assign => simp [take, lexeme]
  | operator op =>
    by_cases after : s.afterOperand
    · simp [take, lexeme, after, pushOperator]
    · -- A sign leaves the gap as it is, but an operand is still awaited.
      have awaits : s.afterOperand = false := by simpa using after
      cases op <;> simp [take, lexeme, awaits, pushOperator, visible, Except.map]

theorem take_visible (s : State) (t : Token) :
    (s.visible.take t).map visible = (s.take t).map visible := by
  by_cases after : s.afterOperand
  · rw [visible_of_afterOperand after]
  · exact take_textGap _ (.inl (by simpa using after))

/-! ### Lines -/

theorem run_visible (s : State) (ts : List Token) :
    (run s.visible ts).1.visible = (run s ts).1.visible := by
  induction ts generalizing s with
  | nil => exact s.visible_visible
  | cons t ts ih =>
    have same := s.take_visible t
    rw [run, run]
    cases taken : s.take t with
    | error fault =>
      rw [taken] at same
      cases taken' : s.visible.take t with
      | error fault' => exact s.visible_visible
      | ok next => rw [taken'] at same; cases same
    | ok next =>
      rw [taken] at same
      cases taken' : s.visible.take t with
      | error fault' => rw [taken'] at same; cases same
      | ok next' =>
        rw [taken'] at same
        have alike : next'.visible = next.visible := Except.ok.inj same
        calc (run next' ts).1.visible
          _ = (run next'.visible ts).1.visible := (ih next').symm
          _ = (run next ts).1.visible := by rw [alike, ih next]

/-- A gap that stands behind no operand makes no difference to the rest of the line. -/
theorem stepsThrough_eq_of_visible (alike : s.visible = s'.visible) (ts : List Token) :
    s.stepsThrough ts = s'.stepsThrough ts := by
  have final (r : State) : r.stepsThrough ts
      = (run r ts).1.visible.outermost.flush.output
        ++ (run r ts).1.visible.assignment.toList := rfl
  rw [final, final, ← run_visible s, alike, run_visible s']

theorem stepsThrough_cons_eq {gap : Bool}
    (alike : (take { s with textGap := gap } t).map visible = (s.take t).map visible)
    (ts : List Token) :
    stepsThrough { s with textGap := gap } (t :: ts) = s.stepsThrough (t :: ts) := by
  cases taken : s.take t with
  | error fault =>
    rw [taken] at alike
    cases taken' : take { s with textGap := gap } t with
    | error fault' =>
      simp only [stepsThrough, run, taken, taken']
      rfl
    | ok next => rw [taken'] at alike; cases alike
  | ok next =>
    rw [taken] at alike
    cases taken' : take { s with textGap := gap } t with
    | error fault' => rw [taken'] at alike; cases alike
    | ok next' =>
      rw [taken'] at alike
      have same := stepsThrough_eq_of_visible (Except.ok.inj alike) ts
      simpa only [stepsThrough, run, taken, taken'] using same

/-- A gap makes no difference if the next token that is no text does not see it. -/
theorem stepsThrough_textGap (gap : Bool)
    (unseen : ∀ next ∈ ts.find? (!·.lexeme.isText), next.lexeme.seesGap = false) :
    stepsThrough { s with textGap := gap } ts = s.stepsThrough ts := by
  induction ts generalizing s gap with
  | nil => rfl
  | cons t ts ih =>
    cases text : t.lexeme.isText with
    | false =>
      refine stepsThrough_cons_eq (take_textGap gap (.inr ⟨text, ?_⟩)) ts
      exact unseen t (by simp [text])
    | true =>
      have unseen : ∀ next ∈ ts.find? (!·.lexeme.isText), next.lexeme.seesGap = false := by
        simpa [text] using unseen
      obtain ⟨u, lexeme⟩ : ∃ u, t.lexeme = .text u := by
        cases lexeme : t.lexeme <;> simp [lexeme, Lexeme.isText] at text ⊢
      obtain ⟨here, taken⟩ := exists_takeAll_texts (List.forall_mem_singleton.2 ⟨u, lexeme⟩) s
      obtain ⟨there, taken'⟩ := exists_takeAll_texts (List.forall_mem_singleton.2 ⟨u, lexeme⟩)
        { s with textGap := gap }
      rw [← List.singleton_append, stepsThrough_append taken, stepsThrough_append taken']
      exact (ih there unseen).trans (ih here unseen).symm

end State

/-- Text can be left out unless an operand, an opening bracket or a unit is the next token that is
no text. -/
theorem ofTokens_text_append (before after : List Token) {words : Token}
    (text : ∃ u, words.lexeme = .text u)
    (unseen : ∀ next ∈ after.find? (!·.lexeme.isText), next.lexeme.seesGap = false) :
    ofTokens (before ++ words :: after) = ofTokens (before ++ after) := by
  cases taken : takeAll .initial before with
  | error fault => rw [ofTokens_append_of_fault taken, ofTokens_append_of_fault taken]
  | ok s =>
    obtain ⟨gap, taken'⟩ := exists_takeAll_texts (List.forall_mem_singleton.2 text) s
    calc ofTokens (before ++ words :: after)
      _ = s.stepsThrough ([words] ++ after) := ofTokens_append_of_takeAll taken _
      _ = State.stepsThrough { s with textGap := gap } after := State.stepsThrough_append taken' _
      _ = s.stepsThrough after := State.stepsThrough_textGap gap unseen
      _ = ofTokens (before ++ after) := (ofTokens_append_of_takeAll taken _).symm

/-- In `[1 m each - , 2` the word inside the cell can be left out, though the line is malformed. -/
theorem ofTokens_text_append_cell :
    let each : Token := ⟨.text ['e', 'a', 'c', 'h'], 3, 7⟩
    let opened : List Token := [⟨.opening .square, 0, 1⟩, ⟨.operand (.number .one), 1, 2⟩]
    let rest : List Token := [⟨.text [' '], 7, 8⟩, ⟨.operator .sub, 8, 9⟩, ⟨.comma, 10, 11⟩,
      ⟨.operand (.number (.ofNat 2)), 12, 13⟩]
    (∃ u, each.lexeme = .text u)
      ∧ (∀ next ∈ rest.find? (!·.lexeme.isText), next.lexeme.seesGap = false)
      ∧ ofTokens (opened ++ each :: rest) = ofTokens (opened ++ rest) := by
  intro each opened rest
  have text : ∃ u, each.lexeme = .text u := ⟨_, rfl⟩
  have unseen : ∀ next ∈ rest.find? (!·.lexeme.isText), next.lexeme.seesGap = false := by
    simp [rest, Lexeme.isText, Lexeme.seesGap]
  exact ⟨text, unseen, ofTokens_text_append opened rest text unseen⟩

end Postfix
end CalcSheet
