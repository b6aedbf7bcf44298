import CalcSheet.Proofs.Evaluation.Targets
import CalcSheet.Proofs.Highlight.Partition
import CalcSheet.Proofs.Postfix.Cuts

/-!
# Brackets that are marked and brackets at fault

Brackets are matched twice: to highlight them, where a bracket that does not fit is marked and
passed over, and to calculate, where it ends the line. Both are compared with the grammar of
brackets that fit. So a line without a mark is cut only if a cell is empty or rows differ in length.
-/
namespace CalcSheet
open Postfix

namespace Brackets

/-- The brackets among some tokens. -/
def among (tokens : List Token) : List Lexeme := (tokens.map (·.lexeme)).filter Lexeme.isBracket

/-- Brackets in pairs of one kind, each pair inside of another one or beside it. -/
inductive Nested : List Lexeme → Prop
  | nil : Nested []
  | pair {inner rest : List Lexeme} (b : Bracket) (inside : Nested inner) (behind : Nested rest) :
      Nested (.opening b :: inner ++ .closing b :: rest)

/-- Brackets that close some open ones, the latest first, and are nested apart from that. -/
inductive Closes : List Bracket → List Lexeme → Prop
  | nested {bs : List Lexeme} (h : Nested bs) : Closes [] bs
  | closing {b : Bracket} {outer : List Bracket} {inner rest : List Lexeme} (inside : Nested inner)
      (behind : Closes outer rest) : Closes (b :: outer) (inner ++ .closing b :: rest)

variable {b b' : Bracket} {unclosed : List Bracket} {bs : List Lexeme}

theorem closes_nil_left : Closes [] bs ↔ Nested bs :=
  ⟨fun | .nested h => h, .nested⟩

theorem closes_nil_right : Closes unclosed [] ↔ unclosed = [] := by
  constructor
  · intro h
    generalize none : ([] : List Lexeme) = bs at h
    cases h with
    | nested => rfl
    | closing => simp at none
  · rintro rfl
    exact .nested .nil

theorem closes_opening :
    Closes unclosed (.opening b :: bs) ↔ Closes (b :: unclosed) bs := by
  constructor
  · intro h
    generalize whole : Lexeme.opening b :: bs = all at h
    cases h with
    | nested h =>
      cases h with
      | nil => cases whole
      | pair b inside behind =>
        cases whole
        exact .closing inside (.nested behind)
    | closing inside behind =>
      -- What is nested before the closing bracket begins with the pair of the new one.
      cases inside with
      | nil => cases whole
      | pair b first second =>
        cases whole
        simpa using Closes.closing first (.closing second behind)
  · intro h
    cases h with
    | closing inside behind =>
      cases behind with
      | nested behind => exact .nested (.pair b inside behind)
      | closing second behind => simpa using Closes.closing (.pair b inside second) behind

theorem closes_closing :
    Closes (b' :: unclosed) (.closing b :: bs) ↔ b' = b ∧ Closes unclosed bs := by
  constructor
  · intro h
    generalize whole : Lexeme.closing b :: bs = all at h
    cases h with
    | closing inside behind =>
      cases inside with
      | nil =>
        cases whole
        exact ⟨rfl, behind⟩
      | pair => cases whole
  · rintro ⟨rfl, behind⟩
    exact .closing .nil behind

theorem not_closes_closing_nil : ¬ Closes [] (.closing b :: bs) := by
  intro h
  generalize whole : Lexeme.closing b :: bs = all at h
  cases h with
  | nested h => cases h <;> cases whole

variable {t : Token} {tokens : List Token}

theorem among_cons_opening (opens : t.lexeme = .opening b) (tokens : List Token) :
    among (t :: tokens) = .opening b :: among tokens := by
  rw [among, List.map_cons, opens]
  rfl

theorem among_cons_closing (closes : t.lexeme = .closing b) (tokens : List Token) :
    among (t :: tokens) = .closing b :: among tokens := by
  rw [among, List.map_cons, closes]
  rfl

theorem among_cons_other (other : ∀ b, t.lexeme ≠ .opening b ∧ t.lexeme ≠ .closing b)
    (tokens : List Token) : among (t :: tokens) = among tokens := by
  rw [among, List.map_cons, List.filter_cons_of_neg (by simp [Lexeme.isBracket_eq_false other])]
  rfl

theorem among_assignment (a : Assignment) (tokens : List Token) :
    among (a.tokens ++ tokens) = among tokens := by
  have none : ∀ t ∈ a.tokens, t.lexeme.isBracket = false := fun t mem => by
    rcases Assignment.lexeme_of_mem_tokens mem with ⟨_, kind⟩ | ⟨_, kind⟩ | kind <;>
      rw [kind] <;> rfl
  simpa [among] using none

end Brackets

open Brackets

/-! ### Brackets in a calculation -/

namespace Postfix

variable {s s' : State} {t : Token} {tokens : List Token} {fault : BracketFault}

/-- The brackets that are open in a state, the latest first. -/
def State.unclosed (s : State) : List Bracket := s.frames.map (·.bracket)

/-- A cell is empty, or the rows of a matrix differ. -/
def BracketFault.IsInMatrix (fault : BracketFault) : Prop :=
  fault = .emptyCell ∨ fault = .raggedRows

theorem State.isInMatrix_of_endCell {frame : Frame} {outer : List Frame} {endsRow : Bool}
    (failed : s.endCell frame outer endsRow = .error fault) : fault.IsInMatrix := by
  unfold endCell at failed
  split at failed
  · exact .inl (Except.error.inj failed).symm
  · cases endsRow with
    | false => cases failed
    | true =>
      cases known : frame.layout.cols? with
      | none => simp [known, Except.map] at failed
      | some cols =>
        by_cases width : frame.layout.current + 1 = cols
        · simp [known, width, Except.map] at failed
        · refine .inr ?_
          simpa [known, width, Except.map, eq_comm] using failed

theorem State.isInMatrix_of_closeMatrix {frame : Frame} {outer : List Frame}
    (failed : s.closeMatrix frame outer = .error fault) : fault.IsInMatrix := by
  rcases bind_eq_error failed with failed | ⟨ended, end_, failed⟩
  · exact isInMatrix_of_endCell failed
  · obtain ⟨-, -, rfl⟩ := endCell_eq_ok_iff.1 end_
    cases failed

theorem State.isInMatrix_of_separate {endsRow : Bool}
    (failed : s.separate endsRow = .error fault) : fault.IsInMatrix := by
  unfold separate at failed
  split at failed
  · cases failed
  · split at failed
    · exact isInMatrix_of_endCell failed
    · cases failed

/-- A token that is taken leaves the same brackets to be closed. -/
theorem State.closes_of_take (taken : s.take t = .ok s') (other : t.lexeme ≠ .assign)
    (tokens : List Token) :
    Closes s.unclosed (among (t :: tokens)) ↔ Closes s'.unclosed (among tokens) := by
  cases leadsTo_of_take taken with
  | inside frames _ plain => rw [among_cons_other plain, unclosed, unclosed, frames]
  | @opening b opens =>
    have opened : (s.openBracket b t.start).unclosed = b :: s.unclosed :=
      congrArg (b :: List.map Frame.bracket ·) s.frames_beginOperand
    rw [among_cons_opening opens, closes_opening, opened]
  | @closing b _ closes closed =>
    obtain ⟨frame, outer, frames, fits, -⟩ := close_eq_ok closed
    obtain ⟨frame', frames'⟩ := frames_close closed
    obtain ⟨rfl, rfl⟩ := List.cons.inj (frames.symm.trans frames')
    rw [among_cons_closing closes, unclosed, frames, List.map_cons, closes_closing,
      and_iff_right fits, unclosed]
  | separator separates frames _ ended =>
    obtain ⟨layout, -, frames', -⟩ := endCell_eq_ok ended
    have plain (b : Bracket) : t.lexeme ≠ .opening b ∧ t.lexeme ≠ .closing b := by
      rcases separates with kind | kind <;> simp [kind]
    rw [among_cons_other plain, unclosed, unclosed, frames, frames', List.map_cons, List.map_cons]
  | assignment assigns => exact absurd assigns other

theorem State.isInMatrix_of_close {b : Bracket} {bs : List Lexeme}
    (failed : s.close b = .error fault) (fit : Closes s.unclosed (.closing b :: bs)) :
    fault.IsInMatrix := by
  unfold close at failed
  cases frames : s.frames with
  | nil =>
    rw [unclosed, frames] at fit
    exact absurd fit not_closes_closing_nil
  | cons frame outer =>
    rw [unclosed, frames, List.map_cons, closes_closing] at fit
    simp only [frames, ne_eq, fit.1, not_true_eq_false, if_false] at failed
    split at failed
    · exact isInMatrix_of_closeMatrix failed
    · cases failed

/-- Where the brackets fit, a token can be at fault only inside of a matrix. -/
theorem State.isInMatrix_of_take (failed : s.take t = .error fault)
    (fit : Closes s.unclosed (among (t :: tokens))) : fault.IsInMatrix := by
  unfold take at failed
  cases kind : t.lexeme with
  | closing b =>
    rw [kind] at failed
    rw [among_cons_closing kind] at fit
    exact isInMatrix_of_close failed fit
  | comma | semicolon =>
    rw [kind] at failed
    exact isInMatrix_of_separate failed
  | _ =>
    rw [kind] at failed
    cases failed

/-- Without a fault the brackets fit, and where they fit the fault is inside of a matrix. -/
theorem closes_of_run (others : ∀ t ∈ tokens, t.lexeme ≠ .assign) :
    ((run s tokens).2 = none → Closes s.unclosed (among tokens))
      ∧ ∀ fault, (run s tokens).2 = some fault → Closes s.unclosed (among tokens) →
        fault.IsInMatrix := by
  induction tokens generalizing s with
  | nil =>
    cases frames : s.frames with
    | nil => simp [run, State.unclosed, frames, among, closes_nil_right]
    | cons frame outer => simp [run, State.unclosed, frames, among, closes_nil_right]
  | cons t tokens ih =>
    obtain ⟨other, others⟩ := List.forall_mem_cons.1 others
    cases taken : s.take t with
    | error fault =>
      rw [run, taken]
      constructor
      · intro none_
        cases none_
      · intro fault' same fit
        obtain rfl := Option.some.inj same
        exact State.isInMatrix_of_take taken fit
    | ok next =>
      rw [run, taken, State.closes_of_take taken other]
      exact ih others

/-- The name before an equals sign has no brackets, and a calculation begins anew behind it. -/
theorem closes_of_scan {line : Text} {names : List KnownName}
    (scanned : Token.scan line names = .ok tokens) :
    (fault? tokens = none → Nested (among tokens))
      ∧ ∀ fault, fault? tokens = some fault → Nested (among tokens) → fault.IsInMatrix := by
  obtain ⟨rest, others, ⟨a, -, rfl⟩ | ⟨-, rfl⟩⟩ := Token.beginning_of_scan scanned
  · rw [← closes_nil_left, among_assignment, fault?, run_append_of_takeAll a.takeAll_tokens]
    exact closes_of_run (s := { State.initial with assignment := _ }) others
  · rw [← closes_nil_left]
    exact closes_of_run (s := .initial) others

/-- Of a line at fault, the steps are those of the tokens before one of its brackets. An opening one
may also have let a multiplication wait. -/
def IsTruncated (tokens : List Token) : Prop :=
  ∃ before t after s, tokens = before ++ t :: after ∧ takeAll .initial before = .ok s
    ∧ s.frames = []
    ∧ ((∃ b, t.lexeme = .closing b) ∧ ofTokens tokens = s.stepsThrough []
      ∨ (∃ b, t.lexeme = .opening b) ∧ ofTokens tokens = s.beginOperand.stepsThrough [])

theorem isTruncated_of_fault (failed : fault? tokens = some fault) : IsTruncated tokens := by
  rcases failsInside_or_exists_isCut failed with
    inside | ⟨before, t, after, rfl, s, taken, outside, cut⟩
  · exact absurd rfl inside.frames_ne_nil
  · refine ⟨before, t, after, s, rfl, taken, outside, ?_⟩
    rw [ofTokens_append_of_takeAll taken]
    rcases cut with ⟨b, closes⟩ | ⟨b, opens, fails⟩
    · refine .inl ⟨⟨b, closes⟩, ?_⟩
      rw [State.stepsThrough, run, State.take_closing_outside outside closes]
      rfl
    · refine .inr ⟨⟨b, opens⟩, ?_⟩
      have opened : s.take t = .ok (s.openBracket b t.start) := by simp [State.take, opens]
      rw [State.stepsThrough, run, opened]
      exact fails.stepsThrough_openBracket outside

end Postfix

/-! ### Brackets in a highlighted line -/

namespace Highlight

variable {start : Int} {tokens : List Token} {line : Text} {names : List KnownName}

/-- Some of the ranges are marked as brackets without a partner. -/
def Marks (ranges : List Range) : Prop := ∃ r ∈ ranges, r.className = Style.unmatched.className

theorem marks_cons {r : Range} {ranges : List Range} :
    Marks (r :: ranges) ↔ r.className = Style.unmatched.className ∨ Marks ranges := by
  simp [Marks]

theorem marks_pair (b : Bracket) (first second : Int) (ranges : List Range) :
    Marks (styled (pairStyle b) first 1 :: styled (pairStyle b) second 1 :: ranges)
      ↔ Marks ranges := by
  have paired : (pairStyle b).className ≠ Style.unmatched.className := by cases b <;> decide
  simp [marks_cons, styled, paired]

/-- A bracket is marked unless the brackets of the line close those that are open. -/
theorem marks_bracketRanges (start : Int) (unclosed : List (Bracket × Nat)) (tokens : List Token) :
    Marks (bracketRanges start unclosed tokens)
      ↔ ¬ Closes (unclosed.map Prod.fst) (among tokens) := by
  induction unclosed, tokens using bracketRanges.induct with
  | case1 unclosed =>
    simp only [bracketRanges, among, List.map_nil, List.filter_nil, closes_nil_right]
    cases unclosed <;> simp [Marks, styled]
  | case2 unclosed t rest b opens ih =>
    rw [among_cons_opening opens, closes_opening]
    simp only [bracketRanges, opens]
    exact ih
  | case3 t rest b first outer closes ih =>
    rw [among_cons_closing closes, List.map_cons, closes_closing, and_iff_right rfl]
    simpa only [bracketRanges, closes, if_true, marks_pair] using ih
  | case4 t rest b closes b' first outer other ih =>
    rw [among_cons_closing closes, List.map_cons, closes_closing]
    simp [bracketRanges, closes, other, marks_cons, styled]
  | case5 t rest b closes ih =>
    rw [among_cons_closing closes, List.map_nil]
    simp [bracketRanges, closes, marks_cons, styled, not_closes_closing_nil]
  | case6 unclosed t rest notOpening notClosing ih =>
    have other (b : Bracket) : t.lexeme ≠ .opening b ∧ t.lexeme ≠ .closing b :=
      ⟨notOpening b, notClosing b⟩
    rwa [among_cons_other other, bracketRanges_cons_other other]

/-- A bracket of a line is marked if and only if its brackets are not nested. Then the line is cut
at a bracket. A line that is cut because a bracket closes none or is not closed has a mark, so
without a mark it is cut for a cell of a matrix. -/
theorem marks_agree_with_faults (scanned : Token.scan line names = .ok tokens) (start : Int) :
    let marked := Marks (bracketRanges start [] tokens)
    (marked ↔ ¬ Nested (among tokens))
      ∧ (marked → (∃ fault, fault? tokens = some fault) ∧ IsTruncated tokens)
      ∧ (∀ fault, fault? tokens = some fault →
        fault = .unexpectedClosing ∨ fault = .unclosed → marked)
      ∧ ∀ fault, fault? tokens = some fault → ¬ marked →
        fault = .emptyCell ∨ fault = .raggedRows := by
  intro marked
  have nested : marked ↔ ¬ Nested (among tokens) := by
    rw [← closes_nil_left]
    exact marks_bracketRanges start [] tokens
  obtain ⟨fits, matrix⟩ := closes_of_scan scanned
  refine ⟨nested, fun marks => ?_, fun fault failed kind => ?_, fun fault failed unmarked => ?_⟩
  · cases failed : fault? tokens with
    | none => exact absurd (fits failed) (nested.1 marks)
    | some fault => exact ⟨⟨fault, rfl⟩, isTruncated_of_fault failed⟩
  · refine nested.2 fun fit => ?_
    rcases matrix fault failed fit with rfl | rfl <;> simp at kind
  · exact matrix fault failed (not_not.1 (mt nested.2 unmarked))

/-- In `2(3]` both brackets are marked. In `[1,]` none is, but the line is cut at the empty cell. -/
theorem marks_agree_with_faults_mismatched :
    (∃ tokens, Token.scan "2(3]".toList [] = .ok tokens ∧ Marks (bracketRanges 0 [] tokens)
      ∧ fault? tokens = some .unexpectedClosing ∧ ¬ Nested (among tokens) ∧ IsTruncated tokens)
    ∧ ∃ tokens fault, Token.scan "[1,]".toList [] = .ok tokens
      ∧ ¬ Marks (bracketRanges 0 [] tokens) ∧ fault? tokens = some fault
      ∧ (fault = .emptyCell ∨ fault = .raggedRows) := by
  constructor
  · obtain ⟨tokens, scanned, failed⟩ : ∃ tokens, Token.scan "2(3]".toList [] = .ok tokens
        ∧ fault? tokens = some .unexpectedClosing := by decide +kernel
    obtain ⟨nested, truncates, marks, -⟩ := marks_agree_with_faults scanned 0
    have marked := marks _ failed (.inl rfl)
    exact ⟨tokens, scanned, marked, failed, nested.1 marked, (truncates marked).2⟩
  · obtain ⟨tokens, scanned, brackets, failed⟩ : ∃ tokens, Token.scan "[1,]".toList [] = .ok tokens
        ∧ among tokens = [.opening .square, .closing .square]
        ∧ fault? tokens = some .emptyCell := by decide +kernel
    obtain ⟨nested, -, -, inMatrix⟩ := marks_agree_with_faults scanned 0
    have fit : Nested (among tokens) := brackets ▸ .pair .square .nil .nil
    have unmarked := fun marked => nested.1 marked fit
    exact ⟨tokens, _, scanned, unmarked, failed, inMatrix _ failed unmarked⟩

end Highlight
end CalcSheet
