import Reckoner.Decimal.Fixed
import Reckoner.Expression.Value
import Reckoner.Extraction
import Reckoner.Json
import Reckoner.Settings

/-!
# Answers

The answer to a text is a result with its value, expression and unit, or a failure with its wording
and code, or, for a text without arithmetic, neither. Faults without a code are not answered: they
pass through to the caller.
-/

namespace Reckoner

set_option autoImplicit false

structure Answer where
  ok : Bool
  result : Option Text := none
  value : Option Binary64 := none
  expression : Option Text := none
  unit : Option Text := none
  error : Option Text := none
  errorCode : Option Text := none
deriving DecidableEq

namespace Answer

def fields (answer : Answer) : List (Text × Json.Scalar) :=
  ("ok".toList, .boolean answer.ok) ::
    [ answer.result.map fun text => ("result".toList, Json.Scalar.string text),
      answer.value.map fun value => ("value".toList, .number value),
      answer.expression.map fun text => ("expression".toList, .string text),
      answer.unit.map fun text => ("unit".toList, .string text),
      answer.error.map fun text => ("error".toList, .string text),
      answer.errorCode.map fun text => ("error_code".toList, .string text) ].filterMap id

def quotedOrNone : Option Text → Text
  | none => "None".toList
  | some text => Text.quoted text

/-- The answer on one line: a failure with its wording and code, anything else with its result and
unit as far as they are there. -/
def summary (answer : Answer) : Text :=
  if answer.ok then
    let part := fun (name : String) (field : Option Text) =>
      match field with
      | none => []
      | some text => ", ".toList ++ name.toList ++ '=' :: Text.quoted text
    "EvalResult(ok=True".toList ++ part "result" answer.result ++ part "unit" answer.unit ++ [')']
  else
    "EvalResult(ok=False, error=".toList ++ quotedOrNone answer.error ++ ", error_code=".toList
      ++ quotedOrNone answer.errorCode ++ [')']

/-- The answer that a fault is given; one without a code has none. -/
def ofFault (expression : Option Text) (fault : Fault) : Except Fault Answer :=
  match fault.code? with
  | some code =>
      .ok { ok := false, expression, error := some fault.message, errorCode := some code }
  | none => .error fault

def computed (settings : Settings) (extraction : Extraction) : Except Fault (Binary64 × Text) := do
  let value ← Expression.evaluate extraction.expression
  let text ← Decimal.fixed value settings.places
  return (value, Decimal.withUnit text extraction.unit)

def ofExtraction (settings : Settings) (extraction : Extraction) : Except Fault Answer :=
  if extraction.isEmpty then .ok { ok := true }
  else
    match computed settings extraction with
    | .ok (value, text) =>
        .ok {
          ok := true
          result := some text
          value := some value
          expression := some extraction.expression
          unit := extraction.unit }
    | .error fault => ofFault (some extraction.expression) fault

def ofText (settings : Settings) (raw : Text) : Except Fault Answer :=
  match Extraction.ofText settings.inputLimit raw with
  | .ok extraction => ofExtraction settings extraction
  | .error fault => ofFault none fault

/-- The result of an answer alone; the settings say what stands for a failure. -/
def resultText (settings : Settings) (answer : Answer) : Text :=
  if answer.ok then answer.result.getD [] else settings.failureText

def textOf (settings : Settings) (raw : Text) : Except Fault Text :=
  (ofText settings raw).map (resultText settings)

end Answer

end Reckoner
