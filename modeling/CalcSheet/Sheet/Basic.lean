import CalcSheet.Sheet.Pass
import CalcSheet.Text.Lines

/-!
# Sheets

A sheet is a document of lines. What belongs to a line besides its text is kept in a list of its
own, beside the list of the texts. Lines may be counted from the end by negative numbers.
-/
namespace CalcSheet

/-- What belongs to a line: the identifier that references to it use, zero while there are none, and
the base of its result. -/
structure LineData where
  id : LineId
  base : Numeral.Base
  deriving DecidableEq, Repr

/-- What belongs to a new line. -/
def LineData.blank : LineData := ⟨0, .decimal⟩

/-- A document. New line identifiers are counted from `nextId`; `pass?` is the last evaluation,
which edits leave as it is. -/
structure Sheet where
  texts : List Text
  data : List LineData
  nextId : LineId
  places : Int
  pass? : Option Pass
  deriving DecidableEq

/-- Why an operation on a sheet has no result. -/
inductive SheetFault where
  | noRowToRead
  | noRowToEdit
  | rowBeyondIndex
  | placeBeyondIndex
  | unknownBase (name : Text)
  | negativeRow
  | rowBeyondMemory
  | rowBeyondBits
  | longReference (digits : Nat)
  | line (cause : LineFault)
  deriving DecidableEq, Repr

namespace Sheet

/-- The lines with what belongs to them. -/
def rows (s : Sheet) : List Row := s.texts.zipWith (fun t d => ⟨t, d.id, d.base⟩) s.data

/-- The place of a row among `n`, where negative numbers count from the end. -/
def rowAt? (n : Nat) (row : Int) : Option Nat :=
  if 0 ≤ row then if row < n then some row.toNat else none
  else if 0 ≤ row + n then some (row + n).toNat else none

/-- Rows are numbered by integers of 64 bits. -/
def indexBound : Int := 9223372036854775808

def IsIndex (row : Int) : Prop := -indexBound ≤ row ∧ row < indexBound

instance (row : Int) : Decidable (IsIndex row) := inferInstanceAs (Decidable (_ ∧ _))

/-- The place of a row among `n`, or what is wrong with it: `absent` if there is no such row. -/
def findRow (n : Nat) (row : Int) (absent : SheetFault) : Except SheetFault Nat :=
  if IsIndex row then
    match rowAt? n row with
    | some k => .ok k
    | none => .error absent
  else .error .rowBeyondIndex

/-- Replace all texts. What belongs to the lines keeps its places: surplus data goes, new lines are
blank. -/
def setContent (s : Sheet) (content : Text) : Sheet :=
  let n := content.lines.length
  { s with
    texts := content.lines
    data := s.data.take n ++ List.replicate (n - s.data.length) .blank }

/-- The sheet of a text, before any evaluation. -/
def ofContent (content : Text) (places : Int) : Sheet :=
  setContent ⟨[], [], 1, places, none⟩ content

def content (s : Sheet) : Text := Text.unlines s.texts

/-- The least row whose result bit is beyond what memory holds, and the least beyond all bits. -/
def memoryBound : Int := 100000000000

def bitBound : Int := 69175290276410818321

/-- Whether a row had a result in the last pass. -/
def hasResult (s : Sheet) (row : Int) : Except SheetFault Bool :=
  match s.pass? with
  | none => .ok false
  | some p =>
      if row < 0 then .error .negativeRow
      else if bitBound ≤ row then .error .rowBeyondBits
      else if memoryBound ≤ row then .error .rowBeyondMemory
      else .ok (p.hasResult row.toNat)

/-- Evaluate the sheet and keep the pass. -/
def evaluate (s : Sheet) : Except SheetFault (Pass × Sheet) := do
  let pass ← (Pass.ofRows s.places s.rows).mapError .line
  pure (pass, { s with pass? := some pass })

/-- The last pass; the sheet is evaluated if there is none. -/
def lastPass (s : Sheet) : Except SheetFault (Pass × Sheet) :=
  match s.pass? with
  | some p => .ok (p, s)
  | none => s.evaluate

end Sheet
end CalcSheet
