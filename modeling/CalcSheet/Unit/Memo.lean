import CalcSheet.Unit.Expression

/-!
# Remembered units

A memo keeps the outcome of reading a unit text, failures included, except where the reading was
interrupted. It never holds more than `limit` texts: past that the older half is forgotten.
-/
namespace CalcSheet.PhysicalUnit

/-- Outcomes in the order in which the texts were first read. -/
structure Memo where
  entries : List (Text × Except ParseFault PhysicalUnit)

namespace Memo

def limit : Nat := 1000

def empty : Memo := ⟨[]⟩

def find? (m : Memo) (t : Text) : Option (Except ParseFault PhysicalUnit) := m.entries.lookup t

/-- Whether the text is remembered. -/
def contains (m : Memo) (t : Text) : Bool := (m.find? t).isSome

def size (m : Memo) : Nat := m.entries.length

/-- Remember a new text; past the limit only the newest half of it stays. -/
def insert (m : Memo) (t : Text) (outcome : Except ParseFault PhysicalUnit) : Memo :=
  let entries := m.entries ++ [(t, outcome)]
  if limit < entries.length then ⟨entries.drop (entries.length - limit / 2)⟩ else ⟨entries⟩

/-- Read a unit text, from memory if possible. -/
def parse (m : Memo) (t : Text) : Except ParseFault PhysicalUnit × Memo :=
  match m.find? t with
  | some outcome => (outcome, m)
  | none =>
      match PhysicalUnit.parse t with
      | .error (.interrupted cause) => (.error (.interrupted cause), m)
      | outcome => (outcome, m.insert t outcome)

/-- Whether the text is a unit; it is an error only where the reading was interrupted. -/
def isUnit (m : Memo) (t : Text) : Except Interruption Bool × Memo :=
  match m.parse t with
  | (.ok _, m) => (.ok true, m)
  | (.error (.interrupted cause), m) => (.error cause, m)
  | (.error _, m) => (.ok false, m)

end Memo
end CalcSheet.PhysicalUnit
