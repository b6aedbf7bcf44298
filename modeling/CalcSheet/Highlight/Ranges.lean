import CalcSheet.Highlight.Style
import CalcSheet.Sheet.Basic

/-!
# Highlighted ranges

Each token that shows gets a range in the style of its kind. Brackets are matched apart from that;
those that find no partner are marked. A reference keeps its color for as long as colors are kept.
-/
namespace CalcSheet.Highlight

/-- A range of characters with its class name and color. -/
structure Range where
  start : Int
  length : Int
  className : String
  color : String
  deriving DecidableEq, Repr

/-- The colors given to referenced lines, in the order of their first use. -/
abbrev Colors := List (LineId × String)

/-- The color of a line: the one it has, or the next of the palette. -/
def colorOf (colors : Colors) (id : LineId) : String × Colors :=
  match colors.lookup id with
  | some color => (color, colors)
  | none =>
      let color := (palette[colors.length % palette.length]?).getD ""
      (color, colors ++ [(id, color)])

def styled (style : Style) (start length : Int) : Range :=
  ⟨start, length, style.className, style.color?.getD ""⟩

/-- The style of a lexeme that is neither a reference nor a bracket. White space has none. -/
def styleOf? : Lexeme → Option Style
  | .text t => if (Lexeme.text t).isBlank then none else some .text
  | .operand (.number _) => some .number
  | .operand (.variable _) => some .variable
  | .operand (.reference _) => none
  | .unit _ | .conversion _ => some .unit
  | .comma | .semicolon => some .matrix
  | .operator _ | .assign => some .operator
  | .opening _ | .closing _ => none

/-- The ranges of tokens, brackets left out, of a line that begins at `lineStart`. -/
def tokenRanges (lineStart : Int) : Colors → List Token → List Range × Colors
  | colors, [] => ([], colors)
  | colors, t :: rest =>
      let start := lineStart + t.start
      let length := (t.stop : Int) - t.start
      let (here, colors) : List Range × Colors :=
        match t.lexeme with
        | .operand (.reference id) =>
            let (color, colors) := colorOf colors id
            ([⟨start, length, Style.reference.className, color⟩], colors)
        | lexeme => ((styleOf? lexeme).toList.map (styled · start length), colors)
      let (later, colors) := tokenRanges lineStart colors rest
      (here ++ later, colors)

/-- The style of a pair of brackets. -/
def pairStyle : Bracket → Style
  | .round => .paren
  | .square => .matrix

/-- The ranges of brackets, in the order in which they are settled. `unclosed` holds the open ones,
the latest first. -/
def bracketRanges (lineStart : Int) : List (Bracket × Nat) → List Token → List Range
  | unclosed, [] => unclosed.reverse.map fun (_, start) => styled .unmatched (lineStart + start) 1
  | unclosed, t :: rest =>
      match t.lexeme with
      | .opening b => bracketRanges lineStart ((b, t.start) :: unclosed) rest
      | .closing b =>
          match unclosed with
          | (b', start) :: outer =>
              if b' = b then
                styled (pairStyle b) (lineStart + start) 1
                  :: styled (pairStyle b) (lineStart + t.start) 1
                  :: bracketRanges lineStart outer rest
              else
                styled .unmatched (lineStart + t.start) 1 :: bracketRanges lineStart unclosed rest
          | [] => styled .unmatched (lineStart + t.start) 1 :: bracketRanges lineStart [] rest
      | _ => bracketRanges lineStart unclosed rest

/-- The ranges of the tokens of one line. -/
def lineRanges (colors : Colors) (lineStart : Int) (tokens : List Token) : List Range × Colors :=
  let (ranges, colors) := tokenRanges lineStart colors tokens
  (ranges ++ bracketRanges lineStart [] tokens, colors)

/-- The ranges of rows that have been evaluated, the first of which begins at `start`. -/
def rowRanges : Colors → Int → List (Text × List Token) → List Range × Colors
  | colors, _, [] => ([], colors)
  | colors, start, (line, tokens) :: rest =>
      let (here, colors) :=
        if isTextLine line then ([styled .comment start line.length], colors)
        else lineRanges colors start tokens
      let (later, colors) := rowRanges colors (start + line.length + 1) rest
      (here ++ later, colors)

/-- The ranges of all rows of an evaluated sheet. -/
def sheetRanges (colors : Colors) (s : Sheet) (p : Pass) : List Range × Colors :=
  rowRanges colors 0 (s.texts.zip (p.lines.map (·.tokens)))

/-- Put a text into a sheet, evaluate it and highlight it. The sheet keeps the text even if it
cannot be evaluated. -/
def highlightText (colors : Colors) (s : Sheet) (t : Text) :
    Except SheetFault (List Range × Colors) × Sheet :=
  let s := s.setContent t
  match s.evaluate with
  | .error fault => (.error fault, s)
  | .ok (p, s) => (.ok (sheetRanges colors s p), s)

end CalcSheet.Highlight
