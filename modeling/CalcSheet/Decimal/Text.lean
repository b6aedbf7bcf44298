import CalcSheet.Decimal.Basic

/-!
# Numerals

`scientific` writes a number with all its digits and its exponent, so that reading it back gives
the same sign, coefficient and exponent. `plain` writes it without an exponent.
-/
namespace CalcSheet.Decimal

/-- Digits `ds` with the last `places` of them behind a point, and at least one before it. -/
def withPoint (ds : List Char) (places : Nat) : List Char :=
  if places = 0 then ds
  else
    let ds := List.replicate (places + 1 - ds.length) '0' ++ ds
    ds.take (ds.length - places) ++ '.' :: ds.drop (ds.length - places)

/-- The numeral of `x` without exponent. -/
def plain (x : Decimal) : List Char :=
  let ds := Digits.text 10 x.coefficient
  let body :=
    if x.exponent ≤ 0 then withPoint ds (-x.exponent).toNat
    else if x.IsZero then ds
    else ds ++ List.replicate x.exponent.toNat '0'
  if x.negative then '-' :: body else body

/-- The numeral of `x`: plain unless the exponent is positive or the leading digit stands more than
five places behind the first decimal, else with one digit before the point and an exponent. -/
def scientific (x : Decimal) : List Char :=
  if x.exponent ≤ 0 ∧ -6 ≤ x.order then x.plain
  else
    let ds := Digits.text 10 x.coefficient
    let body := withPoint ds (ds.length - 1)
    let mark := if x.order < 0 then ['E'] else ['E', '+']
    (if x.negative then ['-'] else []) ++ body ++ mark ++ Digits.signed x.order

instance : ToString Decimal := ⟨fun x => String.ofList x.scientific⟩

/-- The number of digits `before` and `after` the point. -/
def ofDigits (before after : List Nat) : Decimal :=
  ⟨false, Digits.toNat 10 (before ++ after), -(after.length : Int)⟩

/-- A sign, and what follows it. -/
def readSign : List Char → Bool × List Char
  | '-' :: rest => (true, rest)
  | '+' :: rest => (false, rest)
  | t => (false, t)

/-- The exponent that a numeral ends with; without one it is zero. -/
def readExponent? : List Char → Option Int
  | [] => some 0
  | e :: rest =>
      let (negative, digits) := readSign rest
      if (e = 'e' ∨ e = 'E') ∧ digits ≠ [] ∧ digits.all Char.isDigit then
        let n : Int := Digits.toNat 10 (digits.map fun c => c.toNat - 48)
        some (if negative then -n else n)
      else none

/-- The number that a numeral denotes, digit for digit. -/
def read? (t : List Char) : Option Decimal :=
  let (negative, t) := readSign t
  let before := t.takeWhile Char.isDigit
  let t := t.drop before.length
  let after := if t.head? = some '.' then t.tail.takeWhile Char.isDigit else []
  let t := if t.head? = some '.' then t.drop (after.length + 1) else t
  if before = [] ∧ after = [] then none
  else do
    let e ← readExponent? t
    let values (ds : List Char) := ds.map fun c => c.toNat - 48
    let x := ofDigits (values before) (values after)
    pure { x with negative, exponent := x.exponent + e }

end CalcSheet.Decimal
