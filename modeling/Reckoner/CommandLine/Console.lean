import Reckoner.CommandLine.Options
import Reckoner.Journal.Event

/-!
# The console

What the program prints and how it ends, for options that are settled: its version, a line with its
result, the answer to one expression, or a dialogue that answers line by line. A line of the
dialogue is answered as the same expression on the command line would be.
-/

namespace Reckoner.CommandLine

set_option autoImplicit false

def version : Text := "1.0.0".toList

/-- What a run of the program comes to: its exit code or the fault that ended it, what it printed,
and the events for the journal. -/
structure Run where
  ending : Except Fault Nat
  output : Text := []
  events : List Journal.Event := []

namespace Run

def after (output : Text) (events : List Journal.Event) (run : Run) : Run :=
  { run with output := output ++ run.output, events := events ++ run.events }

end Run

def lineOf (text : Text) : Text :=
  text ++ ['\n']

def shown (format : Format) (answer : Answer) : Text :=
  match format with
  | .json => Json.object answer.fields
  | .human =>
      if answer.ok then answer.result.getD "Nothing to evaluate.".toList
      else "Error: ".toList ++ answer.error.getD []

def runExpression (settings : Settings) (format : Format) (expression : Text) : Run :=
  let raw := Text.trim expression
  if raw.isEmpty then
    { ending := .ok 1, output := lineOf "Error: Empty input. Please enter an expression.".toList }
  else
    let events := Journal.Event.ofAnswer settings raw
    match Answer.ofText settings raw with
    | .ok answer =>
        let code := if answer.ok then 0 else 1
        { ending := .ok code, output := lineOf (shown format answer), events }
    | .error fault => { ending := .error fault, events }

def lineFields (line : Text) (edit : Option Field.Edit) : List (Text × Json.Scalar) :=
  let (value, caret) := match edit with
    | some edit => (edit.value, edit.caret)
    | none => (line, line.length)
  [("triggered".toList, .boolean edit.isSome), ("value".toList, .string value),
   ("caret".toList, .natural caret)]

def runLine (settings : Settings) (format : Format) (line : Text) : Run :=
  let events := Journal.Event.ofEdit settings line line.length
  match Field.Edit.ofField? settings line line.length with
  | .ok edit =>
      let output := match format with
        | .json => Json.object (lineFields line edit)
        | .human => (edit.map Field.Edit.value).getD line
      { ending := .ok 0, output := lineOf output, events }
  | .error fault => { ending := .error fault, events }

def banner : Text :=
  lineOf "InlineMath - type 'help' for usage, 'quit' to exit.".toList

def prompt : Text := ">>> ".toList

def farewell : Text := lineOf "Goodbye.".toList

def guidance : Text :=
  lineOf "Type an expression such as '100 + 10%', '3 X 4' or '5 km + 2 km'.".toList
    ++ lineOf "Supported: + - * / ( ) %, decimal numbers and 'X' for multiplication.".toList
    ++ lineOf "Words are ignored; the word after the first number is kept as the unit.".toList
    ++ lineOf "Commands: help, quit, exit".toList

inductive Command
  | nothing
  | leave
  | help
  | expression (raw : Text)
deriving DecidableEq, Repr

/-- The command of a line. The words for leaving and for help count in capital letters too. -/
def Command.ofLine (line : Text) : Command :=
  let raw := Text.trim line
  let word := raw.map Text.smallLetter
  if raw.isEmpty then nothing
  else if word = "quit".toList ∨ word = "exit".toList then leave
  else if word = "help".toList then help
  else expression raw

/-- What a line of the dialogue comes to: the dialogue goes on after some output, or it ends. -/
inductive Turn
  | goesOn (output : Text) (events : List Journal.Event)
  | ends (run : Run)

def turn (settings : Settings) (format : Format) (line : Text) : Turn :=
  match Command.ofLine line with
  | .nothing => .goesOn [] []
  | .leave => .ends { ending := .ok 0, output := farewell }
  | .help => .goesOn guidance []
  | .expression raw =>
      let reply := runExpression settings format raw
      match reply.ending with
      | .ok _ => .goesOn reply.output reply.events
      | .error _ => .ends reply

/-- What is written where the input ends before the dialogue does. -/
def lastWords : Text := '\n' :: farewell

/-- The dialogue from its next prompt on. -/
def dialogue (settings : Settings) (format : Format) : List Text → Run
  | [] => { ending := .ok 0, output := prompt ++ lastWords }
  | line :: rest =>
      match turn settings format line with
      | .goesOn output events => (dialogue settings format rest).after (prompt ++ output) events
      | .ends run => run.after prompt []

/-- The lines of an input; what follows the last line break is a line unless it is empty. -/
def inputLines : Text → List Text
  | [] => []
  | '\n' :: rest => [] :: inputLines rest
  | c :: rest =>
      match inputLines rest with
      | [] => [[c]]
      | line :: lines => (c :: line) :: lines

/-- The settings that options leave in force. A negative number of places changes nothing. -/
def settingsAfter (settings : Settings) (options : Options) : Except Fault Settings :=
  match options.places with
  | .absent => .ok settings
  | .bare => .error .placesWithoutValue
  | .valued places => .ok (if 0 ≤ places then { settings with places } else settings)

def run (settings : Settings) (options : Options) (input : Text) : Run :=
  if options.version then { ending := .ok 0, output := lineOf version }
  else
    match options.line, options.expression with
    | .valued line, _ => runLine settings options.format line
    | .bare, _ => { ending := .error .lineWithoutValue }
    | .absent, .valued expression => runExpression settings options.format expression
    | .absent, .bare => { ending := .error .expressionWithoutValue }
    | .absent, .absent => (dialogue settings options.format (inputLines input)).after banner []

end Reckoner.CommandLine
