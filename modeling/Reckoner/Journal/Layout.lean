import Reckoner.Journal.Placeholder

/-!
# Layouts

What a placeholder writes for its argument: the text of the argument in the form that the directive
asks for, with its sign, filled up to the width. Texts are filled up with blanks, numbers with zeros
if the flag for zeros is set and they are not aligned to the left.
-/

namespace Reckoner.Journal

set_option autoImplicit false

/-- The parts of a placeholder that say how a text is laid out. A negative width aligns it to the
left, as the flag for that does. -/
structure Layout where
  flags : Text
  width : Int
  precision : Option Nat
deriving DecidableEq, Repr

namespace Layout

def has (layout : Layout) (flag : Char) : Bool :=
  layout.flags.contains flag

def alignsLeft (layout : Layout) : Bool :=
  layout.has '-' || layout.width < 0

def roomLimit : Nat := Nat.pow 2 40

/-- A text behind its sign, filled up to the width. -/
def filledUp (layout : Layout) (zeros : Bool) (sign body : Text) : Except Misfit Text :=
  let missing := layout.width.natAbs - (sign.length + body.length)
  if roomLimit < layout.width.natAbs then .error .messageTooLong
  else if layout.alignsLeft then .ok (sign ++ body ++ List.replicate missing ' ')
  else if zeros then .ok (sign ++ List.replicate missing '0' ++ body)
  else .ok (List.replicate missing ' ' ++ sign ++ body)

def textSet (layout : Layout) (text : Text) : Except Misfit Text :=
  layout.filledUp false [] ((layout.precision.map text.take).getD text)

def sign (layout : Layout) (negative : Bool) : Text :=
  if negative then ['-'] else if layout.has '+' then ['+'] else if layout.has ' ' then [' '] else []

def digitLimit : Nat := Nat.pow 2 31 - 4

/-- An integer by its digits in some base, with at least as many of them as the precision says. -/
def integerSet (layout : Layout) (mark : Text) (digits : Nat → Text) (value : Int) :
    Except Misfit Text :=
  let written := digits value.natAbs
  let least := layout.precision.getD 0
  if digitLimit < least then .error .tooManyDigits
  else
    layout.filledUp (layout.has '0')
      (layout.sign (value < 0) ++ if layout.has '#' then mark else [])
      (List.replicate (least - written.length) '0' ++ written)

def inCapitals (capital : Bool) (text : Text) : Text :=
  if capital then text.map Text.capitalLetter else text

def usualPrecision : Nat := 6

/-- A number by the form of its magnitude, which takes the size in grains and the precision. -/
def numberSet (layout : Layout) (capital : Bool) (form : Nat → Nat → Text) (value : Binary64) :
    Except Misfit Text :=
  let (negative, magnitude) := match value with
    | .nan => (false, "nan".toList)
    | .infinite negative => (negative, "inf".toList)
    | .finite negative rank =>
        (negative, form (Binary64.grainsOfRank rank) (layout.precision.getD usualPrecision))
  layout.filledUp (layout.has '0') (layout.sign negative) (inCapitals capital magnitude)

/-- What a placeholder with this conversion writes for its argument. -/
def set (layout : Layout) (directive : Char) (argument : Argument) :
    Conversion → Except Misfit Text
  | .plain => layout.textSet argument.plain
  | .marked => layout.textSet argument.marked
  | .escaped => layout.textSet argument.escaped
  | .character => do layout.filledUp false [] [← argument.character]
  | .whole => do layout.integerSet [] Decimal.numeral (← argument.whole directive)
  | .octal => do
      layout.integerSet ['0', 'o'] (Nat.toDigits 8) (← argument.exactInteger directive)
  | .hexadecimal capital => do
      layout.integerSet (inCapitals capital ['0', 'x'])
        (fun value => inCapitals capital (Nat.toDigits 16 value))
        (← argument.exactInteger directive)
  | .fixed capital => do
      layout.numberSet capital (Binary64.fixedText (layout.has '#')) (← argument.real)
  | .scientific capital => do
      layout.numberSet capital (Binary64.scientificText (layout.has '#')) (← argument.real)
  | .general capital => do
      layout.numberSet capital
        (fun grains digits => Binary64.generalText (layout.has '#') grains (max digits 1))
        (← argument.real)

end Layout

end Reckoner.Journal
