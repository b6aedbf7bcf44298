import CalcSheet.Highlight.Ranges
import CalcSheet.Sheet.Reference

/-!
# Requests

Each request carries a document and is answered from it alone; nothing is kept in between.
-/
namespace CalcSheet.Service

/-- What a request says about a line. -/
structure LineMeta where
  id : LineId
  format : Text
  deriving DecidableEq, Repr

/-- Why a request is refused or cannot be answered. -/
inductive RequestFault where
  | negativePlaces
  | unknownBase (name : Text)
  | sheet (cause : SheetFault)
  deriving DecidableEq, Repr

/-- The data of lines as a request describes them, as far as it does. -/
def describe : List LineData → List LineMeta → Except RequestFault (List LineData)
  | _ :: data, m :: metas =>
      match Numeral.Base.ofName? m.format with
      | none => .error (.unknownBase m.format)
      | some base => do
          let data ← describe data metas
          pure (⟨m.id, base⟩ :: data)
  | data, _ => .ok data

/-- The sheet of a request. -/
def sheetOf (text : Text) (metas : List LineMeta) (places : Int) : Except RequestFault Sheet := do
  let s := Sheet.ofContent text places
  let data ← describe s.data metas
  let largest := match data with
    | [] => 0
    | d :: rest => rest.foldl (fun id d => max id d.id) d.id
  pure { s with data, nextId := largest + 1 }

/-- A sheet whose lines have the given identifiers. -/
def sheetOfIds (text : Text) (ids : List LineId) : Except RequestFault Sheet :=
  sheetOf text (ids.map fun id => ⟨id, Numeral.Base.decimal.name⟩) 4

/-- The answer to an evaluation: the lines, and the variables with their values. -/
structure Evaluation where
  lines : List LineResult
  bindings : List (Text × Text)
  deriving DecidableEq

/-- The texts of bound values. -/
def bindingTexts (bindings : List (Text × Value)) : Except Breakdown (List (Text × Text)) :=
  bindings.mapM fun (name, v) => (name, ·) <$> v.written

def evaluateDocument (text : Text) (metas : List LineMeta) (places : Int) :
    Except RequestFault Evaluation := do
  if places < 0 then .error .negativePlaces
  else
    let s ← sheetOf text metas places
    let (p, _) ← s.evaluate.mapError .sheet
    let bindings ← (bindingTexts p.bindings).mapError (.sheet ∘ .line ∘ .calculation)
    pure ⟨p.lines, bindings⟩

def highlightDocument (text : Text) (ids : List LineId) :
    Except RequestFault (List Highlight.Range) := do
  let s ← sheetOfIds text ids
  let (ranges, _) ← (Highlight.highlightText [] s text).1.mapError .sheet
  pure ranges

/-- The text to save, with references by row number. -/
def normalizeDocument (text : Text) (ids : List LineId) : Except RequestFault Text := do
  let s ← sheetOfIds text ids
  s.normalizedContent.mapError .sheet

/-- What the service says about itself: a message, its version and its state. -/
def about : String × String × String := ("CalcPad API Server", "1.0.0", "running")

end CalcSheet.Service
