import Reckoner.Journal.Template
import Reckoner.Journal.Timestamp

/-!
# Journal entries

An entry is written as its time, its level, its source and its message. The message is a template
with arguments set into it; without arguments the template is taken as it is. An entry can name an
error, which stands on a line of its own.
-/

namespace Reckoner.Journal

set_option autoImplicit false

structure Entry where
  created : Seconds
  level : Int
  source : Text
  template : Text
  arguments : Arguments := .inOrder []
  error : Option Text := none
deriving DecidableEq

namespace Entry

def levelNames : List (Int × Text) :=
  [(0, "NOTSET".toList), (10, "DEBUG".toList), (20, "INFO".toList), (30, "WARNING".toList),
   (40, "ERROR".toList), (50, "CRITICAL".toList)]

def levelName (level : Int) : Text :=
  (levelNames.lookup level).getD ("Level ".toList ++ Decimal.integerNumeral level)

def message (entry : Entry) : Except Fault Text :=
  if entry.arguments = .inOrder [] then .ok entry.template
  else (filled entry.template entry.arguments).mapError .misfit

def errorLine : Option Text → Text
  | none => []
  | some [] => "\nValueError".toList
  | some wording => "\nValueError: ".toList ++ wording

def line (level : Int) (source message : Text) : Text :=
  '[' :: levelName level ++ "] ".toList ++ source ++ ": ".toList ++ message

/-- The entry as it is written. Its time is looked at before its message. -/
def text (entry : Entry) : Except Fault Text := do
  let instant ← Instant.ofSeconds entry.created
  let time ← instant.checked
  let message ← entry.message
  return time.text ++ ' ' :: line entry.level entry.source message ++ errorLine entry.error

end Entry

end Reckoner.Journal
