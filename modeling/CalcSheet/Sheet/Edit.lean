import CalcSheet.Sheet.Basic

/-!
# Edits

An edit is a sequence of statements that change the texts and the data of a sheet one after the
other. Where a statement fails, the changes of those before it stay.
-/
namespace CalcSheet.Sheet

/-- The element at a row. -/
def elementAt (xs : List α) (row : Int) : Except SheetFault α := do
  let k ← findRow xs.length row .noRowToRead
  match xs[k]? with
  | some x => .ok x
  | none => .error .noRowToRead

/-- The list with another element at a row. -/
def modifyAt (xs : List α) (row : Int) (f : α → α) (absent : SheetFault) :
    Except SheetFault (List α) := do
  let k ← findRow xs.length row absent
  pure (xs.modify k f)

/-- The place before which an element is inserted; past either end it becomes the first or the
last. -/
def insertionPlace (n : Nat) (row : Int) : Nat :=
  if 0 ≤ row then min row.toNat n else (row + n).toNat

def insertAt (xs : List α) (row : Int) (x : α) : Except SheetFault (List α) :=
  let k := insertionPlace xs.length row
  if IsIndex row then .ok (xs.take k ++ x :: xs.drop k) else .error .placeBeyondIndex

def removeAt (xs : List α) (row : Int) : Except SheetFault (List α) := do
  let k ← findRow xs.length row .noRowToEdit
  pure (xs.eraseIdx k)

/-- Statements on a sheet that end in an answer or in a fault. -/
abbrev Edit (α : Type) := ExceptT SheetFault (StateM Sheet) α

namespace Edit

/-- The answer of an edit, and the sheet that it leaves behind. -/
def on (e : Edit α) (s : Sheet) : Except SheetFault α × Sheet := e.run.run s

@[simp] theorem on_pure (a : α) (s : Sheet) : (pure a : Edit α).on s = (.ok a, s) := rfl

@[simp] theorem on_throw (fault : SheetFault) (s : Sheet) :
    (throw fault : Edit α).on s = (.error fault, s) := rfl

@[simp] theorem on_lift (x : Except SheetFault α) (s : Sheet) : (liftM x : Edit α).on s = (x, s) :=
  rfl

theorem on_bind (e : Edit α) (f : α → Edit β) (s : Sheet) :
    (e >>= f).on s = match e.on s with
      | (.ok a, s) => (f a).on s
      | (.error fault, s) => (.error fault, s) := by
  simp only [on, ExceptT.run_bind, StateT.run_bind]
  cases e.run.run s with
  | mk answer s => cases answer <;> rfl

theorem on_map (f : α → β) (e : Edit α) (s : Sheet) :
    (f <$> e).on s = ((e.on s).1.map f, (e.on s).2) := by
  rw [map_eq_pure_bind, on_bind]
  rcases e.on s with ⟨answer, s⟩
  cases answer <;> rfl

@[simp] theorem on_get (s : Sheet) : (get : Edit Sheet).on s = (.ok s, s) := rfl

@[simp] theorem on_modify (f : Sheet → Sheet) (s : Sheet) :
    (modify f : Edit PUnit).on s = (.ok (), f s) := rfl

/-- The answer of an edit with the changed sheet. -/
def result (e : Edit α) (s : Sheet) : Except SheetFault (α × Sheet) :=
  match e.on s with
  | (.ok a, s) => .ok (a, s)
  | (.error fault, _) => .error fault

/-- The changed sheet. -/
def changed (e : Edit Unit) (s : Sheet) : Except SheetFault Sheet :=
  match e.on s with
  | (.ok _, s) => .ok s
  | (.error fault, _) => .error fault

/-- Change the texts. -/
def onTexts (f : List Text → Except SheetFault (List Text)) : Edit Unit := do
  let texts ← f (← get).texts
  modify fun s => { s with texts }

/-- Change the data. -/
def onData (f : List LineData → Except SheetFault (List LineData)) : Edit Unit := do
  let data ← f (← get).data
  modify fun s => { s with data }

theorem onTexts_on (f : List Text → Except SheetFault (List Text)) (s : Sheet) :
    (onTexts f).on s = match f s.texts with
      | .ok texts => (.ok (), { s with texts })
      | .error fault => (.error fault, s) := by
  simp only [onTexts, on_bind, on_get, on_lift, on_modify]
  cases f s.texts <;> rfl

theorem onData_on (f : List LineData → Except SheetFault (List LineData)) (s : Sheet) :
    (onData f).on s = match f s.data with
      | .ok data => (.ok (), { s with data })
      | .error fault => (.error fault, s) := by
  simp only [onData, on_bind, on_get, on_lift, on_modify]
  cases f s.data <;> rfl

def setLine (row : Int) (t : Text) : Edit Unit :=
  onTexts fun texts => modifyAt texts row (fun _ => t) .noRowToEdit

/-- Insert a line before a row. -/
def insertLine (row : Int) (t : Text) : Edit Unit := do
  onTexts fun texts => insertAt texts row t
  onData fun data => insertAt data row .blank

/-- Remove a line; a sheet keeps at least one, if only an empty one. -/
def removeLine (row : Int) : Edit Unit := do
  onTexts fun texts => removeAt texts row
  onData fun data => removeAt data row
  if (← get).texts.isEmpty then
    modify fun s => { s with texts := s.texts ++ [[]], data := s.data ++ [.blank] }

/-- Choose the base of the results of a line. -/
def setLineFormat (row : Int) (name : Text) : Edit Unit :=
  match Numeral.Base.ofName? name with
  | none => throw (.unknownBase name)
  | some base => onData fun data => modifyAt data row (fun d => { d with base }) .noRowToRead

end Edit

def setLine (s : Sheet) (row : Int) (t : Text) : Except SheetFault Sheet :=
  (Edit.setLine row t).changed s

def insertLine (s : Sheet) (row : Int) (t : Text) : Except SheetFault Sheet :=
  (Edit.insertLine row t).changed s

def removeLine (s : Sheet) (row : Int) : Except SheetFault Sheet :=
  (Edit.removeLine row).changed s

def setLineFormat (s : Sheet) (row : Int) (name : Text) : Except SheetFault Sheet :=
  (Edit.setLineFormat row name).changed s

end CalcSheet.Sheet
