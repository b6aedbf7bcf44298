import CalcSheet.Token.Assignment

/-!
# Scanning a line

At each position the first of these that matches makes the token: white space, a known name, a
reference to a line without result, a number, a conversion, a unit, a word, an operator. Any other
character is text by itself. Every token takes at least one character.
-/
namespace CalcSheet.Token

/-- Why a line cannot be scanned: the reading of a unit was interrupted, or one of the known names
is at fault. Names that are not empty, and references that name a line by a number that can be
read, rule out the last three. -/
inductive ScanFault where
  | unit (cause : PhysicalUnit.Interruption)
  | emptyName
  | notAReference (name : Text)
  | longReference (digits : Nat)
  deriving DecidableEq, Repr

/-- A lexeme and the number of characters it takes. -/
abbrev Match := Lexeme × Nat

/-- Insert a name before the first that is not longer. -/
def insertByLength (n : KnownName) : List KnownName → List KnownName
  | [] => [n]
  | m :: rest =>
      if m.text.length ≤ n.text.length then n :: m :: rest else m :: insertByLength n rest

/-- Longer names first, otherwise in the order given. -/
def longestFirst (names : List KnownName) : List KnownName := names.foldr insertByLength []

/-- Whether a character before the current one belongs to the same word. Digits do not: a number
may be followed by a name. -/
def gluedTo (previous : Option Char) : Bool :=
  previous.any fun c => Text.isWord c && !Text.isDigit c

def blank? (rest : Text) : Option Match :=
  let run := rest.takeWhile Text.isBlank
  if run.isEmpty then none else some (.text run, run.length)

/-- The first of `names` that `rest` begins with and that does not end inside a word. -/
def nameAt? (rest : Text) : List KnownName → Except ScanFault (Option Match)
  | [] => .ok none
  | n :: names =>
      if n.text.isPrefixOf rest then
        match n.text.getLast? with
        | none => .error .emptyName
        | some last =>
            if Text.isWord last && (rest.drop n.text.length).head?.any Text.isWord then
              nameAt? rest names
            else if n.isReference then
              match Reference.digits? n.text with
              | none => .error (.notAReference n.text)
              | some digits =>
                  if Digits.maxLength < digits.length then .error (.longReference digits.length)
                  else .ok (some (.operand (.reference (Text.naturalOf digits)), n.text.length))
            else .ok (some (.operand (.variable n.text), n.text.length))
      else nameAt? rest names

def knownName? (names : List KnownName) (previous : Option Char) (rest : Text) :
    Except ScanFault (Option Match) :=
  if gluedTo previous && rest.head?.any Text.isWord then .ok none else nameAt? rest names

/-- A reference that no known name stands for is text. -/
def reference? (rest : Text) : Option Match :=
  (Reference.match? rest).map fun digits =>
    (.text (Reference.written digits), digits.length + 3)

def isHexDigit (c : Char) : Bool :=
  c.isDigit || ('a' ≤ c && c ≤ 'f') || ('A' ≤ c && c ≤ 'F')

def hexValue (c : Char) : Nat :=
  if c.isDigit then c.toNat - 48 else if 'a' ≤ c then c.toNat - 87 else c.toNat - 55

def isBit (c : Char) : Bool := c == '0' || c == '1'

/-- The number in the digits of another base, after two characters that announce it. -/
def radix? (base : Nat) (isDigit : Char → Bool) (rest : Text) : Option Match :=
  let digits := rest.takeWhile isDigit
  if digits.isEmpty then none
  else
    some (.operand (.number (.ofNat (Digits.toNat base (digits.map hexValue)))), digits.length + 2)

/-- The digits behind a decimal point. -/
def fraction? : Text → Option Text
  | '.' :: rest => some (rest.takeWhile Text.isDecimal)
  | _ => none

/-- A decimal numeral: digits with an optional point and fraction, or a point and a fraction. -/
def numeral? (rest : Text) : Option Match :=
  let before := rest.takeWhile Text.isDecimal
  let digits (t : Text) := t.map fun c => (Text.digitValue? c).getD 0
  match fraction? (rest.drop before.length) with
  | some after =>
      if before.isEmpty && after.isEmpty then none
      else
        some (.operand (.number (.ofDigits (digits before) (digits after))),
          before.length + 1 + after.length)
  | none =>
      if before.isEmpty then none
      else some (.operand (.number (.ofDigits (digits before) [])), before.length)

/-- A numeral in base sixteen or two. -/
def announced? : Text → Option Match
  | '0' :: 'x' :: digits => radix? 16 isHexDigit digits
  | '0' :: 'b' :: digits => radix? 2 isBit digits
  | _ => none

def number? (previous : Option Char) (rest : Text) : Option Match :=
  if gluedTo previous then none else announced? rest <|> numeral? rest

/-- The lengths of longer and longer unit expressions that `rest` begins with, after `taken`
characters. A name that is known is no unit there, except in first place. -/
def unitLengths (names : List KnownName) : Nat → Nat → Text → List Nat
  | 0, _, _ => []
  | fuel + 1, taken, rest =>
      match PhysicalUnit.term? rest with
      | none => []
      | some term =>
          if taken ≠ 0 ∧ names.any (·.text = rest.take term.length) then []
          else
            let stop := taken + term.length
            stop :: match rest.drop term.length with
              | c :: rest =>
                  if c = '*' ∨ c = '/' then unitLengths names fuel (stop + 1) rest else []
              | [] => []

/-- The first of the lengths at which `rest` has a unit that does not end inside a word. -/
def unitOf? (rest : Text) : List Nat → Except ScanFault (Option (Option PhysicalUnit × Nat))
  | [] => .ok none
  | n :: shorter =>
      if (rest.drop n).head?.any Text.isWord then unitOf? rest shorter
      else match PhysicalUnit.parse (rest.take n) with
        | .ok u => .ok (some (some u, n))
        | .error (.interrupted cause) => .error (.unit cause)
        | .error (.name .notMultiplicative _) => .ok (some (none, n))
        | .error _ => unitOf? rest shorter

/-- The longest unit that `rest` begins with. -/
def unitAt? (names : List KnownName) (rest : Text) :
    Except ScanFault (Option (Option PhysicalUnit × Nat)) :=
  unitOf? rest (unitLengths names rest.length 0 rest).reverse

/-- `to` and a unit, once something else than white space stands before it. -/
def conversion? (begun : Bool) (previous : Option Char) (rest : Text) :
    Except ScanFault (Option Match) :=
  match rest with
  | 't' :: 'o' :: rest =>
      let gap := rest.takeWhile Text.isBlank
      if !begun || previous.any Text.isWord || gap.isEmpty then .ok none
      else do
        let found ← unitAt? [] (rest.drop gap.length)
        pure (found.map fun (u, n) => (.conversion u, n + gap.length + 2))
  | _ => .ok none

def unit? (names : List KnownName) (previous : Option Char) (rest : Text) :
    Except ScanFault (Option Match) :=
  if gluedTo previous then .ok none
  else do
    let found ← unitAt? names rest
    pure (found.map fun (u, n) => (.unit u, n))

/-- A word that means nothing is text. -/
def word? (rest : Text) : Option Match :=
  if rest.head?.any Text.isNameChar then
    let run := rest.takeWhile Text.isWord
    some (.text run, run.length)
  else none

/-- Operators and separators; the signs for times and divided by are operators too. -/
def operator? (c : Char) : Option Lexeme :=
  match c with
  | '+' => some (.operator .add)
  | '-' => some (.operator .sub)
  | '*' | '×' | '·' => some (.operator .mul)
  | '/' | '÷' => some (.operator .div)
  | '^' => some (.operator .pow)
  | '(' => some (.opening .round)
  | ')' => some (.closing .round)
  | '[' => some (.opening .square)
  | ']' => some (.closing .square)
  | ',' => some .comma
  | ';' => some .semicolon
  | _ => none

/-- The token that begins with `c`, where the line goes on with `rest`. -/
def next (names : List KnownName) (begun : Bool) (previous : Option Char) (c : Char)
    (rest : Text) : Except ScanFault Match := do
  let here := c :: rest
  let single : Match := ((operator? c).getD (.text [c]), 1)
  if let some m := blank? here then return m
  if let some m ← knownName? names previous here then return m
  if let some m := reference? here <|> number? previous here then return m
  if let some m ← conversion? begun previous here then return m
  if let some m ← unit? names previous here then return m
  return (word? here).getD single

/-- The tokens of `rest`, which begins at `position` behind the character `previous` and has at
most `fuel` characters. `begun` says whether a token other than white space came before. -/
def scanFrom (names : List KnownName) :
    Nat → Bool → Option Char → Nat → Text → Except ScanFault (List Token)
  | 0, _, _, _, _ => .ok []
  | _ + 1, _, _, _, [] => .ok []
  | fuel + 1, begun, previous, position, c :: rest => do
      let (lexeme, n) ← next names begun previous c rest
      let tokens ← scanFrom names fuel (begun || !lexeme.isBlank) ((c :: rest)[n - 1]?)
        (position + n) ((c :: rest).drop n)
      pure (⟨lexeme, position, position + n⟩ :: tokens)

/-- The tokens of a line that may use the known names. -/
def scan (line : Text) (names : List KnownName) : Except ScanFault (List Token) :=
  if isTextLine line then .ok [⟨.text line, 0, line.length⟩]
  else
    let names := longestFirst names
    match Assignment.parse? line with
    | none => scanFrom names line.length false none 0 line
    | some a => do
        let tokens ← scanFrom names line.length true (some '=') a.length (line.drop a.length)
        pure (a.tokens ++ tokens)

end CalcSheet.Token
