import CalcSheet.Text.Character

/-!
# Columns of results

A displayed result has three parts: what stands before the point, the point with the fraction, and
the unit from the first space on. Results are aligned by padding each part to the widest.
-/
namespace CalcSheet

/-- The lengths of the three parts. -/
structure Widths where
  whole : Nat
  fraction : Nat
  unit : Nat
  deriving DecidableEq, Repr

namespace Widths

def zero : Widths := ⟨0, 0, 0⟩

/-- The larger length in each part. -/
def max (a b : Widths) : Widths :=
  ⟨Nat.max a.whole b.whole, Nat.max a.fraction b.fraction, Nat.max a.unit b.unit⟩

/-- The lengths of the parts of a text: up to a point or space, from the point up to a space, and
from the first space on. -/
def ofText (t : Text) : Widths :=
  let whole := t.takeWhile fun c => c ≠ '.' && c ≠ ' '
  let fraction := (t.drop whole.length).takeWhile (· ≠ ' ')
  ⟨whole.length, fraction.length, t.length - whole.length - fraction.length⟩

/-- The widest of each part. -/
def ofTexts (ts : List Text) : Widths := ts.foldl (fun w t => w.max (ofText t)) zero

/-- Pad the three parts of `t`: the whole part on its left, the others on their right. -/
def pad (widest : Widths) (t : Text) : Text :=
  let w := ofText t
  let fill (n : Nat) : Text := List.replicate n ' '
  fill (widest.whole - w.whole) ++ t.take (w.whole + w.fraction)
    ++ fill (widest.fraction - w.fraction) ++ t.drop (w.whole + w.fraction)
    ++ fill (widest.unit - w.unit)

/-- Line up the points and units of results; empty ones stay empty. -/
def align (ts : List Text) : List Text :=
  let widest := ofTexts (ts.filter (!·.isEmpty))
  ts.map fun t => if t.isEmpty then [] else pad widest t

end Widths
end CalcSheet
