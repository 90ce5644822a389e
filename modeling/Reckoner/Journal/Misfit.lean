import Reckoner.Decimal.Digits
import Reckoner.Text.Quoted

/-!
# Misfits

Why a message cannot be made of a template and its arguments: a placeholder is not well formed, the
arguments are too many or too few, or an argument is not of the kind that its placeholder takes.
Kinds are named as they stand in the wording.
-/

namespace Reckoner.Journal

set_option autoImplicit false

inductive Misfit
  /-- A placeholder has no argument left. -/
  | missingArgument
  /-- An argument has no placeholder left. -/
  | leftoverArgument
  /-- A placeholder asks for an argument by name, but the arguments have none. -/
  | withoutNames
  /-- The name that a placeholder asks for is cut off by the end of the template. -/
  | unfinishedName
  /-- No argument has the name. -/
  | unknownName (name : Text)
  /-- A placeholder is cut off by the end of its template. -/
  | unfinishedPlaceholder
  /-- A character that is no directive, at a position of the template. -/
  | unknownDirective (directive : Char) (position : Nat)
  /-- A width or precision is to be taken from an argument that is not an integer. -/
  | sizeNotAnInteger
  /-- A width that is written in the template is too great. -/
  | widthTooGreat
  /-- A precision that is written in the template is too great. -/
  | precisionTooGreat
  /-- A width that an argument gives is too great. -/
  | givenWidthTooGreat
  /-- A precision that an argument gives is too great. -/
  | givenPrecisionTooGreat
  /-- A number is to have more digits than can be counted. -/
  | tooManyDigits
  /-- The message is longer than can be kept. -/
  | messageTooLong
  /-- A placeholder takes a whole number, of which a number gives the part before the point. -/
  | notWhole (directive : Char) (kind : Text)
  /-- An argument that is infinite has no part before the point. -/
  | infiniteWhole
  /-- An argument that is no number has no part before the point. -/
  | undefinedWhole
  /-- A placeholder takes an integer and nothing else. -/
  | notAnInteger (directive : Char) (kind : Text)
  /-- A placeholder takes a number. -/
  | notANumber (kind : Text)
  /-- An integer is greater than all numbers that are not infinite. -/
  | integerTooGreat
  /-- A placeholder takes a character or its code point. -/
  | notACharacter
  /-- An integer is no code point. -/
  | noCodePoint
deriving DecidableEq, Repr

namespace Misfit

/-- A character that stands for itself in the wording: the printable ASCII characters and the last
of the separators before them. -/
def standsForItself (c : Char) : Bool :=
  '\x1f' ≤ c && c ≤ '~'

def message : Misfit → Text
  | missingArgument => "not enough arguments for format string".toList
  | leftoverArgument => "not all arguments converted during string formatting".toList
  | withoutNames => "format requires a mapping".toList
  | unfinishedName => "incomplete format key".toList
  | unknownName name => Text.quoted name
  | unfinishedPlaceholder => "incomplete format".toList
  | unknownDirective directive position =>
      "unsupported format character '".toList
        ++ (if standsForItself directive then directive else '?') :: "' (0x".toList
        ++ Nat.toDigits 16 directive.toNat ++ ") at index ".toList ++ Decimal.numeral position
  | sizeNotAnInteger => "* wants int".toList
  | widthTooGreat => "width too big".toList
  | precisionTooGreat => "precision too big".toList
  | givenWidthTooGreat => "Python int too large to convert to C ssize_t".toList
  | givenPrecisionTooGreat => "Python int too large to convert to C int".toList
  | tooManyDigits => "precision too large".toList
  | messageTooLong => []
  | notWhole directive kind =>
      '%' :: directive :: " format: a real number is required, not ".toList ++ kind
  | infiniteWhole => "cannot convert float infinity to integer".toList
  | undefinedWhole => "cannot convert float NaN to integer".toList
  | notAnInteger directive kind =>
      '%' :: directive :: " format: an integer is required, not ".toList ++ kind
  | notANumber kind => "must be real number, not ".toList ++ kind
  | integerTooGreat => "int too large to convert to float".toList
  | notACharacter => "%c requires int or char".toList
  | noCodePoint => "%c arg not in range(0x110000)".toList

end Misfit

end Reckoner.Journal
