import CalcSheet.Service

/-!
# Reports

What a caller is told about a fault: its family, and a message where there is one.
-/
namespace CalcSheet

/-- The families of faults. -/
inductive FaultKind where
  | signal (s : Decimal.Signal)
  | unknownUnit
  | unsupportedUnit
  | malformedUnit
  | incompatibleUnits
  | shapeMismatch
  | divisionByZero
  | unknownIdentifier
  | stackUnderflow
  | unexpectedStep
  | invalidValue
  | invalidIndex
  | invalidReference
  | excessiveNumber
  | exhaustedMemory
  | badRequest
  | invalidRequest
  deriving DecidableEq, Repr

structure Report where
  kind : FaultKind
  message : Option String
  deriving DecidableEq, Repr

namespace Report

def ofSignal (s : Decimal.Signal) : Report := ⟨.signal s, none⟩

def excessiveNumber : Report := ⟨.excessiveNumber, none⟩

def exhaustedMemory : Report := ⟨.exhaustedMemory, none⟩

/-- An integer with too many digits: a numeral of so many `digits`, or a number to be written. -/
def longInteger (digits : Option Nat) : Report :=
  let found := match digits with
    | some n => s!": value has {n} digits"
    | none => ""
  ⟨.invalidValue, s!"Exceeds the limit ({Digits.maxLength} digits) for integer string conversion"
    ++ found ++ "; use sys.set_int_max_str_digits() to increase the limit"⟩

def ofInterruption : PhysicalUnit.Interruption → Report
  | .signal s => ofSignal s
  | .longExponent digits => longInteger (some digits)

def ofName (name : Text) : NameFault → Report
  | .everydayWord => ⟨.unknownUnit, s!"Not read as a unit: {String.ofList name}"⟩
  | .unknown => ⟨.unknownUnit, s!"Unknown unit: {String.ofList name}"⟩
  | .outsideDimensions d =>
      ⟨.unknownUnit, s!"Unsupported dimension {d} in unit: {String.ofList name}"⟩
  | .notMultiplicative => ⟨.unsupportedUnit, s!"Non-multiplicative unit: {String.ofList name}"⟩
  | .fractionalExponent => ⟨.malformedUnit, s!"Fractional exponent in unit: {String.ofList name}"⟩
  | .unreadable => ⟨.malformedUnit, none⟩

def ofUnit : PhysicalUnit.ParseFault → Report
  | .empty => ⟨.malformedUnit, "Empty unit expression"⟩
  | .nameExpected position t =>
      ⟨.malformedUnit, s!"Expected a unit name at {position} in: {String.ofList t}"⟩
  | .zeroExponent t => ⟨.malformedUnit, s!"Zero exponent in unit: {String.ofList t}"⟩
  | .unexpected c t => ⟨.malformedUnit, s!"Unexpected '{c}' in unit: {String.ofList t}"⟩
  | .name cause name => ofName name cause
  | .interrupted cause => ofInterruption cause

def ofScan : Token.ScanFault → Report
  | .unit cause => ofInterruption cause
  | .emptyName => ⟨.invalidIndex, "string index out of range"⟩
  | .notAReference _ => ⟨.invalidReference, none⟩
  | .longReference digits => longInteger (some digits)

def ofLayout : LayoutFault → Report
  | .cellCount rows cols count =>
      ⟨.invalidValue, s!"Matrix {rows}x{cols} needs {rows * cols} cells, got {count}"⟩
  | .missingCell => ⟨.invalidValue, "Matrix cells must be scalar numbers"⟩

def ofBreakdown : Breakdown → Report
  | .layout cause => ofLayout cause
  | .infiniteCount => excessiveNumber
  | .unwritable => longInteger none

def ofDisplay : DisplayFault → Report
  | .signal s => ofSignal s
  | .precision digits =>
      if 9223372036854775807 < digits then excessiveNumber
      else ⟨.invalidValue, "valid range for prec is [1, MAX_PREC]"⟩
  | .tooLong => exhaustedMemory
  | .notANumber => ⟨.invalidValue, "cannot convert NaN to integer"⟩
  | .unwritableUnit => longInteger none

/-- A unit in a message. -/
def unitText : Option PhysicalUnit → String
  | some u => toString u
  | none => "None"

/-- A kind of operand in a message. -/
def shapeText : Shape → String
  | none => "number"
  | some (rows, cols) => s!"{rows}x{cols} matrix"

def ofConversion : PhysicalUnit.ConversionFault → Report
  | .incompatible source target =>
      ⟨.incompatibleUnits, s!"Cannot convert {unitText source} to {unitText target}"⟩
  | .signal s => ofSignal s

/-- The report of a fault whose units can be written. -/
def ofCause : Fault → Report
  | .signal s => ofSignal s
  | .sum left right => ⟨.incompatibleUnits, s!"Cannot add {right} to {left}"⟩
  | .conversion source target => ofConversion (.incompatible source target)
  | .quotient left right => ⟨.divisionByZero, s!"Division by zero: {left} / {right}"⟩
  | .zeroToNegative => ⟨.divisionByZero, "Zero raised to a negative power"⟩
  | .exponentUnit e => ⟨.incompatibleUnits, s!"Exponent must be unitless: {e}"⟩
  | .fractionalPower base e =>
      ⟨.incompatibleUnits, s!"Fractional power of a unit: {base}^{e}"⟩
  | .secondUnit q => ⟨.incompatibleUnits, s!"{q} already has a unit"⟩
  | .scaleAttached => ⟨.unsupportedUnit, "Offset units cannot be attached"⟩
  | .scaleTarget => ⟨.unsupportedUnit, "Offset units cannot be converted to"⟩
  | .cellCount expected count => ⟨.shapeMismatch, s!"Expected {expected} cells, got {count}"⟩
  | .nestedMatrix => ⟨.shapeMismatch, "Matrix cells must be scalar numbers"⟩
  | .unequalShapes r c p q => ⟨.shapeMismatch, s!"Cannot combine {r}x{c} with {p}x{q}"⟩
  | .innerSizes r c p q => ⟨.shapeMismatch, s!"Cannot multiply {r}x{c} by {p}x{q}"⟩
  | .notSquare r c => ⟨.shapeMismatch, s!"Only square matrices have powers, got {r}x{c}"⟩
  | .matrixExponent e =>
      ⟨.shapeMismatch, s!"Matrix exponent must be a positive integer, got {e}"⟩
  | .operands op left right =>
      ⟨.shapeMismatch,
        s!"Unsupported operands for {op.symbol}: {shapeText left} and {shapeText right}"⟩
  | .emptyStack => ⟨.stackUnderflow, "Operand stack is empty"⟩
  | .missingCells count => ⟨.stackUnderflow, s!"Matrix needs {count} cells"⟩
  | .unknownVariable name => ⟨.unknownIdentifier, s!"Unknown variable: {String.ofList name}"⟩
  | .noResult line =>
      ⟨.unknownIdentifier, s!"No result for line {String.ofList (Reference.text line)}"⟩
  | .assignment => ⟨.unexpectedStep, "Unexpected operator in RPN: OperatorType.ASSIGN"⟩
  | .layout cause => ofLayout cause
  | .infiniteCount => excessiveNumber

def ofFault (fault : Fault) : Report :=
  match fault.breakdown? with
  | some cause => ofBreakdown cause
  | none => ofCause fault

def ofLine : LineFault → Report
  | .scan cause => ofScan cause
  | .calculation cause => ofBreakdown cause
  | .display cause => ofDisplay cause

/-- An unknown base in a message. -/
def unknownBase (name : Text) : String := s!"Unknown result format: {String.ofList name}"

def ofSheet : SheetFault → Report
  | .noRowToRead => ⟨.invalidIndex, "list index out of range"⟩
  | .noRowToEdit => ⟨.invalidIndex, "list assignment index out of range"⟩
  | .rowBeyondIndex => ⟨.invalidIndex, "cannot fit 'int' into an index-sized integer"⟩
  | .placeBeyondIndex | .rowBeyondBits => excessiveNumber
  | .rowBeyondMemory => exhaustedMemory
  | .unknownBase name => ⟨.invalidValue, unknownBase name⟩
  | .negativeRow => ⟨.invalidValue, "negative shift count"⟩
  | .longReference digits => longInteger (some digits)
  | .line cause => ofLine cause

def ofRequest : Service.RequestFault → Report
  | .negativePlaces => ⟨.badRequest, "decimal_places must not be negative"⟩
  | .unknownBase name => ⟨.badRequest, unknownBase name⟩
  | .sheet cause => ofSheet cause

end Report
end CalcSheet
