import CalcSheet.Quantity
import CalcSheet.Text.Reference

/-!
# Tokens of a line

A token is a lexeme with the span of characters that it stands for. What cannot be understood is
kept as text.
-/
namespace CalcSheet

/-- What a line calculates with. -/
inductive Operand where
  | number (x : Decimal)
  | variable (name : Text)
  | reference (line : LineId)
  deriving DecidableEq, Repr

inductive Bracket where
  | round
  | square
  deriving DecidableEq, Repr

/-- The kinds of tokens. A unit is absent where its name is a scale that does not multiply. -/
inductive Lexeme where
  | text (t : Text)
  | operand (o : Operand)
  | operator (op : BinaryOp)
  | unit (u : Option PhysicalUnit)
  | conversion (u : Option PhysicalUnit)
  | opening (b : Bracket)
  | closing (b : Bracket)
  | comma
  | semicolon
  | assign
  deriving DecidableEq, Repr

/-- White space and nothing else. -/
def Lexeme.isBlank : Lexeme → Bool
  | .text t => t.all Text.isBlank
  | _ => false

/-- A lexeme and the positions of its first character and of the character after it. -/
structure Token where
  lexeme : Lexeme
  start : Nat
  stop : Nat
  deriving DecidableEq, Repr

/-- A name that a line may use: a variable, or the text of a reference to a line. -/
structure KnownName where
  text : Text
  isReference : Bool
  deriving DecidableEq, Repr

/-- Lines that are not calculated: comments, and dashes, which also restart the running sum. -/
def restartsSum (line : Text) : Bool := ['-', '-'].isPrefixOf line

def isComment (line : Text) : Bool := ['\''].isPrefixOf line

def isTextLine (line : Text) : Bool := restartsSum line || isComment line

end CalcSheet
