import Reckoner.Text.Basic
import Reckoner.Text.Printable

/-!
# Quoted text

A text in quotation marks with every character that cannot be shown as itself written as an escape,
so that a quoted text always stands on one line. The mark is the single quote unless the text has
single quotes and no double ones.
-/

namespace Reckoner.Text

set_option autoImplicit false

def hexDigit (value : Nat) : Char :=
  if value < 10 then Char.ofNat (48 + value) else Char.ofNat (87 + value)

def hexDigits : Nat → Nat → Text
  | 0, _ => []
  | width + 1, value => hexDigits width (value / 16) ++ [hexDigit (value % 16)]

/-- A character by its code point, as short as the number allows. -/
def codeEscape (c : Char) : Text :=
  if c.toNat < 0x100 then '\\' :: 'x' :: hexDigits 2 c.toNat
  else if c.toNat < 0x10000 then '\\' :: 'u' :: hexDigits 4 c.toNat
  else '\\' :: 'U' :: hexDigits 8 c.toNat

def quoteMark (text : Text) : Char :=
  if text.contains '\'' && !text.contains '"' then '"' else '\''

def escaped (mark c : Char) : Text :=
  if c = mark ∨ c = '\\' then ['\\', c]
  else if c = '\n' then ['\\', 'n']
  else if c = '\r' then ['\\', 'r']
  else if c = '\t' then ['\\', 't']
  else if isPrintable c then [c]
  else codeEscape c

def quoted (text : Text) : Text :=
  quoteMark text :: text.flatMap (escaped (quoteMark text)) ++ [quoteMark text]

end Reckoner.Text
