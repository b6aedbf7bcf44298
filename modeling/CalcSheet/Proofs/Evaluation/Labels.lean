import CalcSheet.Proofs.Evaluation.Range
import CalcSheet.Proofs.Unit.Naming

/-!
# Units of results

Every operation keeps a unit, takes one over or multiplies and divides units. So the symbols of the
unit of a result tell its dimensions, if those of the units that it is calculated from do.
-/
namespace CalcSheet
namespace Quantity

variable {D : Text → Dimensions} {x y : Quantity} {u w : PhysicalUnit}
  {unit : Option PhysicalUnit} {value : Scalar}

/-- The symbols of the unit, if there is one, tell its dimensions. -/
def IsLabelled (D : Text → Dimensions) (q : Quantity) : Prop := ∀ u ∈ q.unit, u.IsLabelled D

end Quantity

variable {D : Text → Dimensions} {line : Text}

/-- The names that can be read in a line have the dimensions of their symbols. -/
def Line.Agrees (D : Text → Dimensions) (line : Text) : Prop :=
  ∀ name, name <:+: line → Catalogue.Agrees D name

theorem Line.Agrees.isLabelled (h : Line.Agrees D line) {part : Text}
    {unit : Option PhysicalUnit} (inside : part <:+: line) (reads : Token.ReadsUnit part unit) :
    ∀ u ∈ unit, u.IsLabelled D := by
  rintro u rfl
  exact PhysicalUnit.isLabelled_of_parse
    (fun name mem => h name ((PhysicalUnit.infix_of_mem_names mem).trans inside)) reads

end CalcSheet
