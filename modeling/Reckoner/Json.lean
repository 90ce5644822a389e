import Reckoner.Binary64.Shortest
import Reckoner.Decimal.Digits
import Reckoner.Text.Quoted

/-!
# Flat objects in JSON

Records of simple fields are written as JSON objects, one field a line, with two spaces before it.
Characters above the control characters are written as themselves.
-/

namespace Reckoner.Json

set_option autoImplicit false

inductive Scalar
  | boolean (value : Bool)
  | string (value : Text)
  | number (value : Binary64)
  | natural (value : Nat)
deriving DecidableEq

def escaped (c : Char) : Text :=
  if c = '"' ∨ c = '\\' then ['\\', c]
  else if c = '\n' then ['\\', 'n']
  else if c = '\r' then ['\\', 'r']
  else if c = '\t' then ['\\', 't']
  else if c.toNat = 8 then ['\\', 'b']
  else if c.toNat = 12 then ['\\', 'f']
  else if c.toNat < 0x20 then '\\' :: 'u' :: Text.hexDigits 4 c.toNat
  else [c]

def string (value : Text) : Text :=
  '"' :: value.flatMap escaped ++ ['"']

def scalar : Scalar → Text
  | .boolean value => if value then "true".toList else "false".toList
  | .string value => string value
  | .number value => value.text
  | .natural value => Decimal.numeral value

def field (entry : Text × Scalar) : Text :=
  [' ', ' '] ++ string entry.1 ++ [':', ' '] ++ scalar entry.2

/-- The object of the fields, in their order; there is at least one. -/
def object (fields : List (Text × Scalar)) : Text :=
  ['\x7b', '\n'] ++ Text.joined [',', '\n'] (fields.map field) ++ ['\n', '\x7d']

end Reckoner.Json
