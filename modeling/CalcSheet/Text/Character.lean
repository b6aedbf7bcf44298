import CalcSheet.Text.Ranges

/-!
# Characters of a line

A text is its list of characters, so positions and lengths count code points. The classes are
those of Unicode; a numeral may be written in the decimal digits of any script.
-/
namespace CalcSheet

abbrev Text := List Char

namespace Text

def inRanges (ranges : List (Nat × Nat)) (c : Char) : Bool :=
  ranges.any fun r => decide (r.1 ≤ c.toNat) && decide (c.toNat ≤ r.2)

/-- The value of a decimal digit. -/
def digitValue? (c : Char) : Option Nat :=
  if c.toNat < 128 then if c.isDigit then some (c.toNat - 48) else none
  else
    (Ranges.decimalZeros.find? fun z => decide (z ≤ c.toNat) && decide (c.toNat < z + 10)).map
      (c.toNat - ·)

def isDecimal (c : Char) : Bool := (digitValue? c).isSome

/-- Digits of any kind, superscripts and circled digits among them. -/
def isDigit (c : Char) : Bool := isDecimal c || inRanges Ranges.otherDigits c

/-- Letters, numerals and the underscore. -/
def isWord (c : Char) : Bool :=
  if c.toNat < 128 then c.isAlphanum || c == '_' else inRanges Ranges.alphanumeric c

/-- Word characters that may stand in a unit name or begin a variable name. -/
def isNameChar (c : Char) : Bool := isWord c && !isDecimal c

def isBlank (c : Char) : Bool :=
  if c.toNat < 128 then inRanges [(9, 13), (28, 32)] c else inRanges Ranges.blank c

/-- The value of a run of decimal digits. -/
def naturalOf (digits : Text) : Nat :=
  digits.foldl (fun n c => 10 * n + (digitValue? c).getD 0) 0

end Text
end CalcSheet
