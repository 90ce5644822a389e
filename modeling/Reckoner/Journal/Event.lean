import Reckoner.Field.Edit

/-!
# Events

What the journal is told: that a text was refused, what was extracted from it, in which order an
expression is carried out, that it has no answer, and that a line was rewritten. Texts of the user
are always quoted in the wording, so that a message stays on one line.

The events of a request follow from the request alone. They are listed here beside the requests, and
the requests themselves know nothing of a journal.
-/

namespace Reckoner.Journal

set_option autoImplicit false

inductive Event
  /-- A text was cut down to its arithmetic and its unit. -/
  | extracted (extraction : Extraction) (raw : Text)
  /-- The tokens of an expression were put into postfix order. -/
  | ordered (expression : Text) (queue : List Token)
  /-- A text was refused before it was cut. -/
  | refused (fault : Fault)
  /-- An expression has no answer. -/
  | unanswered (expression : Text) (fault : Fault)
  /-- A line was replaced. -/
  | rewrote (bounds : Field.LineBounds) (line : Text)
deriving DecidableEq

inductive Severity
  | debug
  | info
deriving DecidableEq, Repr

namespace Severity

def number : Severity → Int
  | debug => 10
  | info => 20

end Severity

namespace Event

/-- Only a refused text is more than a detail. -/
def severity : Event → Severity
  | refused _ => .info
  | _ => .debug

def source : Event → Text
  | extracted _ _ => "inlinemath.extractor".toList
  | ordered _ _ => "inlinemath.evaluator".toList
  | refused _ | unanswered _ _ => "inlinemath.api".toList
  | rewrote _ _ => "inlinemath.inline".toList

def extractionText (extraction : Extraction) : Text :=
  "Extraction(expression=".toList ++ Text.quoted extraction.expression ++ ", unit=".toList
    ++ Answer.quotedOrNone extraction.unit ++ [')']

def message : Event → Text
  | extracted extraction raw =>
      "Extracted ".toList ++ extractionText extraction ++ " from ".toList ++ Text.quoted raw
  | ordered expression queue =>
      "RPN for ".toList ++ Text.quoted expression ++ ": ".toList
        ++ Text.joined [' '] (queue.map Token.text)
  | refused fault => "Rejected input: ".toList ++ fault.message
  | unanswered expression fault =>
      "Could not evaluate ".toList ++ Text.quoted expression ++ ": ".toList ++ fault.message
        ++ " (".toList ++ fault.code?.getD [] ++ [')']
  | rewrote bounds line =>
      "Rewrote line ".toList ++ Decimal.numeral bounds.start ++ '-' :: Decimal.numeral bounds.stop
        ++ " as ".toList ++ Text.quoted line

def ofExtraction (limit : Int) (raw : Text) : List Event :=
  match Extraction.ofText limit raw with
  | .ok extraction => [extracted extraction raw]
  | .error _ => []

def ofExpression (expression : Text) : List Event :=
  match Expression.postfixOf expression with
  | .ok queue => [ordered expression queue]
  | .error _ => []

def ofExtractionAnswer (settings : Settings) (extraction : Extraction) : List Event :=
  if extraction.isEmpty then []
  else
    ofExpression extraction.expression ++
      match Answer.computed settings extraction with
      | .ok _ => []
      | .error fault =>
          if fault.code?.isSome then [unanswered extraction.expression fault] else []

def ofAnswer (settings : Settings) (raw : Text) : List Event :=
  match Extraction.ofText settings.inputLimit raw with
  | .ok extraction => extracted extraction raw :: ofExtractionAnswer settings extraction
  | .error fault => [refused fault]

def ofEdit (settings : Settings) (value : Text) (caret : Int) : List Event :=
  let bounds := Field.lineBounds value caret
  match Field.Equation.ofLine? (Field.between value bounds) with
  | none => []
  | some equation =>
      ofAnswer settings equation.expression ++
        match Field.Edit.ofField? settings value caret with
        | .ok (some edit) => [rewrote bounds edit.announcement]
        | _ => []

def ofHostRun (settings : Settings) (host : Field.Host) : List Field.Host.Change → List Event
  | [] => []
  | change :: rest =>
      let next := host.changed change
      ofEdit settings next.value next.caret ++
        match host.step settings change with
        | .ok reached => ofHostRun settings reached.1 rest
        | .error _ => []

end Event

end Reckoner.Journal
