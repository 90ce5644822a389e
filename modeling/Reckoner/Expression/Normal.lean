import Reckoner.Fault
import Reckoner.Text.Blank
import Reckoner.Text.WordCharacter

/-!
# Normal form of an expression's text

In the normal form the multiplication sign is `*`, each run of blanks is one space, there are none
at the ends, and every character is one that expressions are written with.
-/

namespace Reckoner.Expression

set_option autoImplicit false

/-- The multiplication sign as an operator of the notation, any other character as itself. -/
def withoutTimesSign (c : Char) : Char :=
  if c = Text.timesSign then '*' else c

def isNotation (c : Char) : Bool :=
  c.isDigit || "+-*/().%".toList.contains c || Text.isBlank c

def firstForeign? (position : Nat) : Text → Option (Char × Nat)
  | [] => none
  | c :: rest => if isNotation c then firstForeign? (position + 1) rest else some (c, position)

/-- The text with one spelling of multiplication and of blanks, before its characters are checked.
-/
def spelled (expression : Text) : Text :=
  Text.trim (Text.squeeze (expression.map withoutTimesSign))

def normal (expression : Text) : Except Fault Text :=
  match firstForeign? 0 (spelled expression) with
  | some (c, position) => .error (.invalidCharacter c position)
  | none => .ok (spelled expression)

end Reckoner.Expression
