import CalcSheet.Sheet.Edit

/-!
# References between lines

A line gets an identifier when it is first referred to, and keeps it however it moves. Saved text
refers to rows by their numbers instead; loading it gives row `n` the identifier `n`.
-/
namespace CalcSheet.Sheet

/-- The first row with the identifier. -/
def rowOfId (s : Sheet) (id : LineId) : Option Nat := s.data.findIdx? (·.id = id)

namespace Edit

/-- The identifier of a line, which gets the next one if it has none. -/
def ensureLineId (row : Int) : Edit LineId := do
  let d ← elementAt (← get).data row
  if d.id ≠ 0 then pure d.id
  else do
    let id := (← get).nextId
    onData fun data => modifyAt data row (fun d => { d with id }) .noRowToRead
    modify fun s => { s with nextId := id + 1 }
    pure id

/-- The text of a reference to a row. -/
def referenceLine (row : Int) : Edit Text := do
  let id ← ensureLineId row
  pure (Reference.text id)

/-- Replace the references in the pieces of a text one after the other, up to one that has too many
digits to be read. `f` finds the identifier to write for the number in a reference; where it finds
none, the reference stays as it is. -/
def replaceRefs (f : Nat → Edit (Option LineId)) : List Reference.Piece → Edit Text
  | [] => pure []
  | .char c :: rest => do
      let done ← replaceRefs f rest
      pure (c :: done)
  | .reference digits :: rest => do
      if Digits.maxLength < digits.length then throw (.longReference digits.length)
      let id? ← f (Text.naturalOf digits)
      let done ← replaceRefs f rest
      pure (match id? with
        | some id => Reference.text id ++ done
        | none => Reference.written digits ++ done)

/-- The identifier of the `n`-th row, counted from one, if there is such a row. -/
def idOfNumber (n : Nat) : Edit (Option LineId) := do
  if n = 0 ∨ (← get).texts.length < n then pure none
  else some <$> ensureLineId ((n - 1 : Nat) : Int)

/-- The number of the row with an identifier, counted from one; it is one if no row has it. -/
def numberOfId (n : Nat) : Edit (Option LineId) := do
  pure (some (((← get).rowOfId n).getD 0 + 1 : Nat))

/-- Turn row numbers into identifiers; numbers of no row stay as they are. -/
def normalizeRefs (t : Text) : Edit Text := replaceRefs idOfNumber (Reference.pieces t)

/-- Turn identifiers into row numbers. -/
def denormalizeRefs (t : Text) : Edit Text := replaceRefs numberOfId (Reference.pieces t)

end Edit

def ensureLineId (s : Sheet) (row : Int) : Except SheetFault (LineId × Sheet) :=
  (Edit.ensureLineId row).result s

def referenceLine (s : Sheet) (row : Int) : Except SheetFault (Text × Sheet) :=
  (Edit.referenceLine row).result s

def normalizeRefs (s : Sheet) (t : Text) : Except SheetFault Text × Sheet :=
  (Edit.normalizeRefs t).on s

def denormalizeRefs (s : Sheet) (t : Text) : Except SheetFault Text :=
  ((Edit.denormalizeRefs t).on s).1

/-- The text to save, with references by row number. -/
def normalizedContent (s : Sheet) : Except SheetFault Text :=
  Text.unlines <$> s.texts.mapM s.denormalizeRefs

/-- The data of `n` lines that have their row numbers as identifiers. -/
def numbered (n : Nat) : List LineData :=
  (List.range n).map fun k => ⟨((k + 1 : Nat) : Int), .decimal⟩

/-- Load a saved text. -/
def setNormalizedContent (s : Sheet) (content : Text) : Sheet :=
  let n := content.lines.length
  { s with
    texts := content.lines
    data := numbered n
    nextId := ((n + 1 : Nat) : Int)
    pass? := none }

end CalcSheet.Sheet
