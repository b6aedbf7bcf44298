import CalcSheet.Decimal.Text
import CalcSheet.Scalar.Basic
import CalcSheet.Text.Character

/-!
# The text of a scalar

`text` writes a finite number as its numeral and the others by name, a NaN with its payload if it
has one. `read?` also takes numerals in the digits of any script, with underscores anywhere, and
names in letters of either case.
-/
namespace CalcSheet.Scalar

/-- What follows the sign in the text of a scalar that is not finite. -/
def infinityName : Text := "Infinity".toList

def nanName (signaling : Bool) : Text := if signaling then "sNaN".toList else "NaN".toList

/-- The payload of a NaN; zero is left out. -/
def payloadText (payload : Nat) : Text := if payload = 0 then [] else Digits.text 10 payload

/-- The text of a scalar, where that of finite numbers is given. -/
def textBy (numeral : Decimal → Text) : Scalar → Text
  | .finite x => numeral x
  | .infinite negative => (if negative then ['-'] else []) ++ infinityName
  | .nan negative signaling payload =>
      (if negative then ['-'] else []) ++ nanName signaling ++ payloadText payload

def text : Scalar → Text := textBy Decimal.scientific

instance : ToString Scalar := ⟨fun x => String.ofList x.text⟩

/-- The characters of a text that count in reading it: those between the white space at its ends,
without underscores, and digits as those of ASCII. Others beyond ASCII cannot be read. -/
def plainCharacters? (t : Text) : Option Text :=
  let inner := ((t.dropWhile Text.isBlank).reverse.dropWhile Text.isBlank).reverse
  (inner.filter (· ≠ '_')).mapM fun c =>
    if c.toNat < 128 then some c
    else (Text.digitValue? c).map fun d => Char.ofNat (48 + d)

/-- The scalar that is not finite whose name, in small letters, follows a sign. -/
def named? (negative : Bool) (name : Text) : Option Scalar :=
  let nan? (signaling : Bool) (payload : Text) : Option Scalar :=
    if payload.all Char.isDigit then some (.nan negative signaling (Text.naturalOf payload))
    else none
  match name with
  | ['i', 'n', 'f'] | ['i', 'n', 'f', 'i', 'n', 'i', 't', 'y'] => some (.infinite negative)
  | 'n' :: 'a' :: 'n' :: payload => nan? false payload
  | 's' :: 'n' :: 'a' :: 'n' :: payload => nan? true payload
  | _ => none

/-- The largest exponent of a leading digit, and the smallest exponent, of a number that is read. -/
def greatestOrder : Int := 999999999999999999

def leastExponent : Int := -1999999999999999997

/-- Whether a number lies in the range of the numbers that are read. -/
def InRange (x : Decimal) : Prop := leastExponent ≤ x.exponent ∧ x.order ≤ greatestOrder

instance (x : Decimal) : Decidable (InRange x) := inferInstanceAs (Decidable (_ ∧ _))

/-- The scalar that a text denotes. -/
def read? (t : Text) : Option Scalar := do
  let t ← plainCharacters? t
  let (negative, name) := Decimal.readSign t
  match named? negative (name.map Char.toLower) with
  | some x => pure x
  | none => do
      let x ← Decimal.read? t
      if InRange x then pure (.finite x) else none

end CalcSheet.Scalar
