import Reckoner.Fault
import Reckoner.Text.Integer

/-!
# Settings

What a host can set from outside: how many places results have, how long a text may be, what stands
in place of a result that fails, and how much is written to the journal. Each setting has a variable
of its own and a value for when the variable is not set.
-/

namespace Reckoner

set_option autoImplicit false

structure Settings where
  /-- The number of places behind the point. -/
  places : Int := 8
  /-- The greatest number of characters of a text. -/
  inputLimit : Int := 10000
  /-- What stands in place of a result that fails. -/
  failureText : Text := "Invalid expression".toList
  /-- The name of the journal level. -/
  journalLevel : Text := "WARNING".toList
deriving DecidableEq, Repr

namespace Settings

def placesVariable : Text := "INLINEMATH_OUTPUT_DECIMALS".toList

def inputLimitVariable : Text := "INLINEMATH_MAX_INPUT_LENGTH".toList

def failureTextVariable : Text := "INLINEMATH_INVALID_EXPRESSION_TEXT".toList

def journalLevelVariable : Text := "INLINEMATH_LOG_LEVEL".toList

def variableNames : List Text :=
  [placesVariable, inputLimitVariable, failureTextVariable, journalLevelVariable]

def integer (text : Text) : Except Fault Int :=
  match Text.readInteger text with
  | .integer value => .ok value
  | .tooManyDigits count => .error (.integerTooLong count)
  | .malformed => .error (.notAnInteger text)

def integerOr (default : Int) : Option Text → Except Fault Int
  | none => .ok default
  | some text => integer text

/-- The settings that the variables give. The number of places is read before the limit. -/
def ofVariables (valueOf : Text → Option Text) : Except Fault Settings := do
  let initial : Settings := {}
  let places ← integerOr initial.places (valueOf placesVariable)
  let inputLimit ← integerOr initial.inputLimit (valueOf inputLimitVariable)
  return {
    places
    inputLimit
    failureText := (valueOf failureTextVariable).getD initial.failureText
    journalLevel := (valueOf journalLevelVariable).getD initial.journalLevel }

end Settings

end Reckoner
