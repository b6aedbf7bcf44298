import CalcSheet.Digits
import CalcSheet.Text.Character
import CalcSheet.Text.Unprintable

/-!
# Quoted texts

A text between quotes, in which the quote, the backslash and every unprintable character are
escaped. The quote is a single one unless the text holds single quotes and no double ones.
-/
namespace CalcSheet.Text

def isPrintable (c : Char) : Bool :=
  if c.toNat < 128 then decide (32 ≤ c.toNat) && decide (c.toNat < 127)
  else !inRanges Ranges.unprintable c

/-- `n` in lower-case hexadecimal, padded with zeros to `width`. -/
def hexPadded (width n : Nat) : Text :=
  let ds := (Digits.text 16 n).map Char.toLower
  List.replicate (width - ds.length) '0' ++ ds

/-- The escape of an unprintable character, two, four or eight hexadecimal digits wide. -/
def codePoint (c : Char) : Text :=
  if c.toNat < 256 then '\\' :: 'x' :: hexPadded 2 c.toNat
  else if c.toNat < 65536 then '\\' :: 'u' :: hexPadded 4 c.toNat
  else '\\' :: 'U' :: hexPadded 8 c.toNat

def escaped (quote c : Char) : Text :=
  if c = quote ∨ c = '\\' then ['\\', c]
  else if c = '\t' then ['\\', 't']
  else if c = '\n' then ['\\', 'n']
  else if c = '\r' then ['\\', 'r']
  else if isPrintable c then [c]
  else codePoint c

def quoted (t : Text) : Text :=
  let quote := if t.contains '\'' && !t.contains '"' then '"' else '\''
  quote :: t.flatMap (escaped quote) ++ [quote]

end CalcSheet.Text
