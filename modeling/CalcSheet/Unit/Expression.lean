import CalcSheet.Unit.Catalogue

/-!
# Compound units

A unit expression is a chain of names with optional integer exponents, joined by `*` and `/`.
A division applies to the one name after it.
-/
namespace CalcSheet.PhysicalUnit

/-- What breaks off the reading of a unit: a signal of the arithmetic of the factors, or an exponent
with more digits than can be read. -/
inductive Interruption where
  | signal (s : Decimal.Signal)
  | longExponent (digits : Nat)
  deriving DecidableEq, Repr

/-- Why a text is not a unit, or not known to be one where reading was interrupted. -/
inductive ParseFault where
  | empty
  | nameExpected (position : Nat) (text : Text)
  | zeroExponent (text : Text)
  | unexpected (c : Char) (text : Text)
  | name (cause : NameFault) (name : Text)
  | interrupted (cause : Interruption)
  deriving DecidableEq, Repr

/-- The exponent of a name, as it is written after `^`. -/
structure WrittenExponent where
  negative : Bool
  digits : Text
  deriving DecidableEq, Repr

namespace WrittenExponent

/-- How many characters the exponent takes, its `^` included. -/
def length (e : WrittenExponent) : Nat := e.digits.length + if e.negative then 2 else 1

def value (e : WrittenExponent) : Int :=
  let n : Int := Text.naturalOf e.digits
  if e.negative then -n else n

end WrittenExponent

/-- One name of a unit expression, with its exponent if one is written. -/
structure Term where
  name : Text
  exponent? : Option WrittenExponent
  deriving DecidableEq, Repr

/-- How many characters stand for the term. -/
def Term.length (t : Term) : Nat := t.name.length + (t.exponent?.map (·.length)).getD 0

/-- A name without an exponent has exponent one. -/
def Term.exponent (t : Term) : Except Interruption Int :=
  match t.exponent? with
  | none => .ok 1
  | some e =>
      if Digits.maxLength < e.digits.length then .error (.longExponent e.digits.length)
      else .ok e.value

/-- The exponent that `t` begins with. -/
def exponent? (t : Text) : Option WrittenExponent :=
  let written (negative : Bool) (rest : Text) : Option WrittenExponent :=
    let digits := rest.takeWhile Text.isDecimal
    if digits.isEmpty then none else some ⟨negative, digits⟩
  match t with
  | '^' :: '-' :: rest => written true rest
  | '^' :: rest => written false rest
  | _ => none

/-- The name with its exponent that `t` begins with. -/
def term? (t : Text) : Option Term :=
  let name := t.takeWhile Text.isNameChar
  if name.isEmpty then none else some ⟨name, exponent? (t.drop name.length)⟩

/-- The unit of one term, raised to `sign` times its exponent. -/
def ofTerm (whole : Text) (sign : Int) (term : Term) : Except ParseFault PhysicalUnit := do
  let exponent ← term.exponent.mapError .interrupted
  if exponent = 0 then .error (.zeroExponent whole)
  else match Catalogue.find term.name with
    | .error cause => .error (.name cause term.name)
    | .ok u => (u.pow (sign * exponent)).mapError (.interrupted ∘ .signal)

/-- Continue a product at `position` of the text `whole`, where `rest` is left to read in at most
`fuel` terms. -/
def parseFrom (whole : Text) :
    Nat → Option PhysicalUnit → Int → Nat → Text → Except ParseFault PhysicalUnit
  | 0, _, _, position, _ => .error (.nameExpected position whole)
  | fuel + 1, product, sign, position, rest =>
      match term? rest with
      | none => .error (.nameExpected position whole)
      | some term => do
          let factor ← ofTerm whole sign term
          let product ←
            match product with
            | none => pure factor
            | some u => (u.mul factor).mapError (.interrupted ∘ .signal)
          let next := position + term.length + 1
          match rest.drop term.length with
          | [] => pure product
          | '*' :: rest => parseFrom whole fuel (some product) 1 next rest
          | '/' :: rest => parseFrom whole fuel (some product) (-1) next rest
          | c :: _ => .error (.unexpected c whole)

/-- The unit that a text denotes. -/
def parse (t : Text) : Except ParseFault PhysicalUnit :=
  if t.isEmpty then .error .empty else parseFrom t (t.length + 1) none 1 0 t

/-- The names of the derived units that replace a compound unit of the same dimensions. -/
def derivedNames : List String := ["N", "J", "W", "Pa", "C", "V", "ohm", "F", "Wb", "T", "H"]

def derivedUnits : List PhysicalUnit :=
  derivedNames.filterMap fun name => (parse name.toList).toOption

/-- The named derived unit with the dimensions of `u`, if there is one. -/
def derived? (u : PhysicalUnit) : Option PhysicalUnit :=
  derivedUnits.find? (·.dimensions = u.dimensions)

end CalcSheet.PhysicalUnit
