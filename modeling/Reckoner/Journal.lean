import Reckoner.Journal.Entry
import Reckoner.Journal.Event
import Reckoner.Journal.Level

/-!
# The journal

Until it is set up the journal notes nothing. Once it is, it writes each event that is severe enough
to the console, and to a file if one is named; setting it up again replaces what was set up before.
If its file is not opened then, what was set up before is gone all the same, and nothing is noted.
Files only grow.
-/

namespace Reckoner

set_option autoImplicit false

structure Journal where
  level : Int := 0
  console : Bool := false
  file : Option Text := none
  files : List (Text × List Text) := []
deriving DecidableEq, Repr

namespace Journal

def name : Text := "inlinemath".toList

/-- An event as a line without its time. -/
def lineOf (event : Event) : Text :=
  Entry.line event.severity.number event.source event.message

def noted (level : Int) (events : List Event) : List Text :=
  (events.filter fun event => effectiveLevel level ≤ event.severity.number).map lineOf

/-- The files with lines added at the end of one, which is created if it is not there. -/
def appended (path : Text) (lines : List Text) :
    List (Text × List Text) → List (Text × List Text)
  | [] => [(path, lines)]
  | (other, old) :: rest =>
      if other = path then (other, old ++ lines) :: rest
      else (other, old) :: appended path lines rest

def setAt (journal : Journal) (level : Int) (file : Option Text) : Journal where
  level := level
  console := true
  file := file
  files := match file with
    | none => journal.files
    | some path => appended path [] journal.files

def closedAt (journal : Journal) (level : Int) : Journal :=
  { journal with level, console := false, file := none }

/-- The journal after it is to be set up at the level of a name and in the file of a path, and what
went wrong. A refused name changes nothing. The file is opened last, when all that was set up before
is gone. -/
def setUp (journal : Journal) (disk : Disk) (levelName : Text) (path : Option Text) :
    Journal × Option Fault :=
  match levelOfName levelName with
  | .error fault => (journal, some fault)
  | .ok level =>
      match disk.openedIfAny path with
      | .ok file => (journal.setAt level file, none)
      | .error obstacle => (journal.closedAt level, some (.fileUnopened obstacle))

def handlers (journal : Journal) : Nat :=
  (if journal.console then 1 else 0) + (if journal.file.isSome then 1 else 0)

def linesOf (journal : Journal) (path : Text) : Option (List Text) :=
  journal.files.lookup path

def record (journal : Journal) (events : List Event) : Journal × List Text :=
  let lines := noted journal.level events
  let files := match journal.file with
    | none => journal.files
    | some path => appended path lines journal.files
  ({ journal with files }, if journal.console then lines else [])

end Journal

end Reckoner
