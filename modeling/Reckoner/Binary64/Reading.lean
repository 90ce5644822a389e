import Reckoner.Binary64.Basic
import Reckoner.Decimal.Digits

/-!
# Reading numbers

A number is written with digits, of which some may stand behind a point, after a sign if there is
one, and with an exponent if there is one; or it is the word for what is infinite or no number. The
reader takes the whole text and gives the nearest number.
-/

namespace Reckoner.Binary64

set_option autoImplicit false

/-- The sign at the beginning of a text, true for minus, and the rest. -/
def splitSign : Text → Bool × Text
  | '-' :: rest => (true, rest)
  | '+' :: rest => (false, rest)
  | rest => (false, rest)

/-- The exponent that makes up a text behind the digits of a number, zero where it is empty. -/
def exponentOf? : Text → Option Int
  | [] => some 0
  | mark :: signed =>
      let (negative, digits) := splitSign signed
      if (mark = 'e' ∨ mark = 'E') ∧ digits ≠ [] ∧ digits.all Char.isDigit then
        some (if negative then -(Decimal.valueOf digits : Int) else Decimal.valueOf digits)
      else none

def splitFraction : Text → Text × Text
  | '.' :: rest => (rest.takeWhile Char.isDigit, rest.dropWhile Char.isDigit)
  | rest => ([], rest)

def ofDigits? (negative : Bool) (source : Text) : Option Binary64 :=
  let whole := source.takeWhile Char.isDigit
  let (fraction, ending) := splitFraction (source.dropWhile Char.isDigit)
  if (whole ++ fraction).isEmpty then none
  else
    (exponentOf? ending).map fun exponent =>
      ofScientific negative (Decimal.valueOf (whole ++ fraction)) (exponent - fraction.length)

def ofText? (source : Text) : Option Binary64 :=
  let (negative, unsigned) := splitSign source
  let word := unsigned.map Text.smallLetter
  if word = "nan".toList then some nan
  else if word = "inf".toList ∨ word = "infinity".toList then some (infinite negative)
  else ofDigits? negative unsigned

end Reckoner.Binary64
