import CalcSheet.Unit.Memo

/-!
# The unit registry

Reads unit texts by way of a memo, and knows the derived unit of a dimension from a table that it
enters when it is first asked. Entering the table reads the names of the derived units, which are
remembered like any other text.
-/
namespace CalcSheet.PhysicalUnit

/-- Units by their dimensions. -/
abbrev Table := List (Dimensions × PhysicalUnit)

/-- Enter a unit, unless there is one with its dimensions already. -/
def Table.keepFirst (table : Table) (u : PhysicalUnit) : Table :=
  if (table.lookup u.dimensions).isSome then table else table ++ [(u.dimensions, u)]

/-- What is remembered, and the table of derived units once it has been entered. -/
structure Registry where
  memo : Memo
  table? : Option Table

namespace Registry

def fresh : Registry := ⟨.empty, none⟩

def parse (r : Registry) (t : Text) : Except ParseFault PhysicalUnit × Registry :=
  let (outcome, memo) := r.memo.parse t
  (outcome, { r with memo })

def isUnit (r : Registry) (t : Text) : Except Interruption Bool × Registry :=
  let (outcome, memo) := r.memo.isUnit t
  (outcome, { r with memo })

/-- Enter the units of some names. What is not a unit is left out; an interruption breaks off, and
what has been entered stays. -/
def enter (memo : Memo) (table : Table) : List String → Except Interruption Unit × Memo × Table
  | [] => (.ok (), memo, table)
  | name :: names =>
      match memo.parse name.toList with
      | (.ok u, memo) => enter memo (table.keepFirst u) names
      | (.error (.interrupted cause), memo) => (.error cause, memo, table)
      | (.error _, memo) => enter memo table names

/-- The named derived unit with the dimensions of a unit, if there are both. -/
def derived? (r : Registry) (u? : Option PhysicalUnit) :
    Except Interruption (Option PhysicalUnit) × Registry :=
  let find (table : Table) := u?.bind fun u => table.lookup u.dimensions
  match r.table? with
  | some table => (.ok (find table), r)
  | none =>
      let (entered, memo, table) := enter r.memo [] derivedNames
      (entered.map fun _ => find table, ⟨memo, some table⟩)

end Registry
end CalcSheet.PhysicalUnit
