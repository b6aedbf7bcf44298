/-!
# Styles of highlighted text

Every style has a class name and a color; references to lines have a color of their own each.
-/
namespace CalcSheet.Highlight

inductive Style where
  | number
  | unit
  | operator
  | variable
  | paren
  | matrix
  | unmatched
  | comment
  | text
  | reference
  deriving DecidableEq, Repr

namespace Style

/-- All styles in the order of the style sheet. -/
def all : List Style :=
  [number, unit, operator, .variable, paren, matrix, unmatched, comment, text, reference]

def className : Style → String
  | number => "syntax-number"
  | unit => "syntax-unit"
  | operator => "syntax-operator"
  | .variable => "syntax-variable"
  | paren => "syntax-paren"
  | matrix => "syntax-matrix"
  | unmatched => "syntax-unmatched"
  | comment => "syntax-comment"
  | text => "syntax-text"
  | reference => "syntax-ln-ref"

/-- The color of a style; references have none of their own. -/
def color? : Style → Option String
  | number => some "#ffffff"
  | unit => some "#E8A33D"
  | operator => some "#4DA6FF"
  | .variable => some "#C792EA"
  | paren => some "#6FCF97"
  | matrix => some "#6FCF97"
  | unmatched => some "#FF5C5C"
  | comment => some "#7ED321"
  | text => some "#888888"
  | reference => none

/-- What the style sheet says about a style besides its color. -/
def extra : Style → String
  | unmatched => "\n    background-color: rgba(248, 81, 73, 0.2);"
  | comment => "\n    font-style: italic;"
  | _ => ""

def rule (s : Style) : String :=
  let body :=
    match s.color? with
    | none => "font-weight: bold;"
    | some color => "color: " ++ color ++ ";" ++ s.extra
  "." ++ s.className ++ " \x7b\n    " ++ body ++ "\n\x7d"

/-- The style sheet. -/
def sheet : String :=
  "\n\n".intercalate ("/* CalcPad Syntax Highlighting Styles */" :: all.map rule) ++ "\n"

end Style

/-- The colors of references, in the order in which they are given out. -/
def palette : List String :=
  ["#FF9999", "#99FF99", "#9999FF", "#FFFF99", "#FF99FF", "#99FFFF", "#FFB366", "#B3FF66",
   "#66FFB3", "#B366FF", "#FF66B3", "#FF6666", "#66FF66", "#6666FF", "#FFFF66", "#FF66FF",
   "#66FFFF"]

end CalcSheet.Highlight
