import Reckoner.Text.Basic

/-!
# The line at the caret

Line breaks cut a field into lines. A caret that is out of range is taken as far as it makes sense:
a negative one counts from the end when the end of its line is looked for, and one behind the end
stands at the end. The beginning of the line is looked for up to and with the character before the
caret, at the beginning of the field up to and with the first character.
-/

namespace Reckoner.Field

set_option autoImplicit false

/-- Where a line begins and where it ends, in characters from the beginning of the field. -/
structure LineBounds where
  start : Nat
  stop : Nat
deriving DecidableEq, Repr

def isInLine (c : Char) : Bool :=
  c != '\n'

/-- The position behind the last line break before the caret, where the first character of the field
always counts as before the caret. -/
def lineStart (value : Text) (caret : Int) : Nat :=
  let before := value.take ((caret - 1).toNat + 1)
  before.length - (before.reverse.takeWhile isInLine).length

/-- A caret within the field; a negative one counts from the end. -/
def caretInRange (value : Text) (caret : Int) : Nat :=
  min value.length (if caret < 0 then caret + value.length else caret).toNat

/-- The position of the next line break from the caret on, or the end of the field. -/
def lineStop (value : Text) (caret : Int) : Nat :=
  let position := caretInRange value caret
  position + ((value.drop position).takeWhile isInLine).length

def lineBounds (value : Text) (caret : Int) : LineBounds :=
  ⟨lineStart value caret, lineStop value caret⟩

def between (value : Text) (bounds : LineBounds) : Text :=
  (value.take bounds.stop).drop bounds.start

end Reckoner.Field
