import Reckoner.Expression.Stages
import Reckoner.Journal

/-!
# Queries

A query asks for an answer and changes nothing: its reply follows from the query and the settings,
and so do the events that it leaves for the journal.
-/

namespace Reckoner

set_option autoImplicit false

inductive Query
  | normal (expression : Text)
  | tokens (expression : Text)
  | signs (tokens : List Token)
  | order (tokens : List Token)
  | postfixValue (queue : List Token)
  | value (expression : Text)
  | stages (expression : Text)
  | validity (expression : Text)
  | scan (raw : Text)
  | unit (tokens : List Token)
  | arithmetic (tokens : List Token)
  | extraction (raw : Text)
  | fixed (value : Binary64) (places : Option Int)
  | result (value : Binary64) (unit : Option Text)
  | answer (raw : Text)
  | answerText (raw : Text)
  | answerOf (answer : Answer)
  | lineBounds (value : Text) (caret : Int)
  | equation (line : Text)
  | answeredLine (leftPart expression result : Text)
  | edit (value : Text) (caret : Option Int)
  | hostRun (value : Text) (changes : List Field.Host.Change)
  | entry (entry : Journal.Entry)
  | coded (category : Category) (wording : Text) (code : Option Text)
deriving DecidableEq

inductive Reply
  | text (text : Text)
  | someText (text : Option Text)
  | tokens (tokens : List Token)
  | number (value : Option Binary64)
  | stages (stages : Expression.Stages)
  | validity (outcome : Except Text Unit)
  | extraction (extraction : Extraction)
  | answer (answer : Answer)
  | lineBounds (bounds : Field.LineBounds)
  | equation (equation : Option Field.Equation)
  | edit (edit : Option Field.Edit)
  | hosts (reached : List (Field.Host × Bool))
  | coded (wording code : Text) (concernsExpression : Bool)

namespace Query

/-- The caret of a field; without one it stands at the end. -/
def caretOr (value : Text) (caret : Option Int) : Int :=
  caret.getD value.length

def reply (settings : Settings) : Query → Except Fault Reply
  | normal expression => (Expression.normal expression).map .text
  | tokens expression => (Expression.tokens expression).map .tokens
  | signs list => .ok (.tokens (Expression.markSigns list))
  | order list => (Expression.toPostfix list).map .tokens
  | postfixValue queue => (Expression.numberOfPostfix queue).map .number
  | value expression => (Expression.evaluate expression).map fun value => .number (some value)
  | stages expression => .ok (.stages (Expression.stages expression))
  | validity expression => .ok (.validity (Expression.validate expression))
  | scan raw => (Extraction.scan settings.inputLimit raw).map .tokens
  | unit list => .ok (.someText (Extraction.findUnit list))
  | arithmetic list => .ok (.text (Extraction.arithmetic list))
  | extraction raw => (Extraction.ofText settings.inputLimit raw).map .extraction
  | fixed number places => (Decimal.fixed number (places.getD settings.places)).map .text
  | result number unitText =>
      (Decimal.fixed number settings.places).map fun text => .text (Decimal.withUnit text unitText)
  | answer raw => (Answer.ofText settings raw).map .answer
  | answerText raw => (Answer.textOf settings raw).map .text
  | answerOf given => .ok (.answer given)
  | lineBounds field caret => .ok (.lineBounds (Field.lineBounds field caret))
  | equation line => .ok (.equation (Field.Equation.ofLine? line))
  | answeredLine leftPart expression found =>
      .ok (.text (Field.Equation.answered leftPart expression found))
  | edit field caret => (Field.Edit.ofField? settings field (caretOr field caret)).map .edit
  | hostRun field changes => ((Field.Host.opened field).run settings changes).map .hosts
  | entry given => given.text.map .text
  | coded category wording code =>
      .ok (.coded wording (category.codeOr code) category.concernsExpression)

def events (settings : Settings) : Query → List Journal.Event
  | value expression | validity expression => Journal.Event.ofExpression expression
  | extraction raw => Journal.Event.ofExtraction settings.inputLimit raw
  | answer raw | answerText raw => Journal.Event.ofAnswer settings raw
  | edit field caret => Journal.Event.ofEdit settings field (caretOr field caret)
  | hostRun field changes => Journal.Event.ofHostRun settings (Field.Host.opened field) changes
  | _ => []

end Query

end Reckoner
