import CalcSheet.Token.Basic

/-!
# Assignments

A line that begins with a name and a single equals sign binds the name to its value. The name may
hold inner spaces.
-/
namespace CalcSheet

/-- The beginning of an assignment, up to its equals sign. -/
structure Assignment where
  lead : Text
  name : Text
  gap : Text
  deriving DecidableEq, Repr

namespace Assignment

/-- How many characters the assignment takes, its equals sign included. -/
def length (a : Assignment) : Nat := a.lead.length + a.name.length + a.gap.length + 1

/-- The characters of a name. -/
def inName (c : Char) : Bool := Text.isWord c || c == ' '

/-- `t` without the spaces at its end. -/
def trimSpaces (t : Text) : Text := (t.reverse.dropWhile (· = ' ')).reverse

/-- Whether `t` begins with one equals sign and not with two. -/
def beginsWithEquals : Text → Bool
  | '=' :: '=' :: _ => false
  | '=' :: _ => true
  | _ => false

/-- The assignment that a line begins with. The name is the longest run of word characters and
spaces, less the spaces at its end. -/
def parse? (line : Text) : Option Assignment :=
  let lead := line.takeWhile Text.isBlank
  let rest := line.drop lead.length
  if rest.head?.any Text.isNameChar then
    let name := trimSpaces (rest.takeWhile inName)
    let gap := (rest.drop name.length).takeWhile Text.isBlank
    if beginsWithEquals (rest.drop (name.length + gap.length)) then some ⟨lead, name, gap⟩ else none
  else none

/-- The name that a line assigns to. -/
def target? (line : Text) : Option Text := (parse? line).map (·.name)

/-- The tokens of the beginning of an assignment. -/
def tokens (a : Assignment) : List Token :=
  let nameStop := a.lead.length + a.name.length
  let gapStop := nameStop + a.gap.length
  (if a.lead.isEmpty then [] else [⟨.text a.lead, 0, a.lead.length⟩])
    ++ [⟨.operand (.variable a.name), a.lead.length, nameStop⟩]
    ++ (if a.gap.isEmpty then [] else [⟨.text a.gap, nameStop, gapStop⟩])
    ++ [⟨.assign, gapStop, gapStop + 1⟩]

end Assignment
end CalcSheet
