import Reckoner.CommandLine.Console
import Reckoner.CommandLine.Help
import Reckoner.Session.Query

/-!
# Sessions

A session carries out requests one after the other. Between them it keeps the settings, of which
only the number of places can change, and the journal with its files. A request that sets the
journal up comes with the disk as it is then; between two requests the disk can change in any way.
-/

namespace Reckoner

set_option autoImplicit false

structure Session where
  settings : Settings
  journal : Journal := {}
deriving DecidableEq, Repr

inductive Request
  | query (query : Query)
  | setUpJournal (level path : Option Text) (disk : Journal.Disk := .plain)
  | readJournal (file : Text)
  | commandLine (arguments : List Text) (input : Text) (disk : Journal.Disk := .plain)

/-- How a run of the command line ended and what it wrote to its two outputs. -/
structure Transcript where
  ending : Except Fault Nat
  output : Text
  console : List Text

inductive Response
  | reply (reply : Except Fault Reply)
  | journalSetUp (outcome : Except Fault (Int × Nat))
  | journalLines (lines : Option (List Text))
  | transcript (transcript : Transcript)

namespace Session

def levelName (settings : Settings) : Option Text → Text
  | none | some [] => settings.journalLevel
  | some name => name

/-- The path that the journal is set up with; an empty one is none. -/
def pathName : Option Text → Option Text
  | none | some [] => none
  | some path => some path

def withJournal (session : Session) (level path : Option Text) (disk : Journal.Disk) :
    Session × Option Fault :=
  let (journal, fault) :=
    session.journal.setUp disk (levelName session.settings level) (pathName path)
  ({ session with journal }, fault)

def withOptions (session : Session) (options : CommandLine.Options) : Except Fault Session :=
  (CommandLine.settingsAfter session.settings options).map fun settings =>
    { session with settings }

/-- What a refused command line writes behind the call of the program, which is left out here. -/
def refusal (problem : CommandLine.Problem) : Text :=
  "inlinemath: error: ".toList ++ problem.message

def refusalCode : Nat := 2

def runOptions (session : Session) (options : CommandLine.Options) (input : Text) :
    Session × Transcript :=
  let run := CommandLine.run session.settings options input
  let (journal, lines) := session.journal.record run.events
  ({ session with journal }, ⟨run.ending, run.output, lines⟩)

/-- A run of the command line. First the journal is set up and then the settings are applied, both
for good, unless the command line gives no options to go by; a fault in either ends the run. -/
def runCommandLine (session : Session) (arguments : List Text) (input : Text)
    (disk : Journal.Disk := .plain) : Session × Transcript :=
  match CommandLine.Options.ofArguments arguments with
  | .error (.problem problem) => (session, ⟨.ok refusalCode, [], [refusal problem]⟩)
  | .error .help => (session, ⟨.ok 0, CommandLine.help, []⟩)
  | .ok options =>
      match session.withJournal options.journalLevel options.journalFile disk with
      | (reached, some fault) => (reached, ⟨.error fault, [], []⟩)
      | (noting, none) =>
          match noting.withOptions options with
          | .error fault => (noting, ⟨.error fault, [], []⟩)
          | .ok prepared => prepared.runOptions options input

/-- The session after a request, its answer, and the lines that the console shows of it. The lines
of a command line are part of its transcript. -/
def step (session : Session) : Request → Session × Response × List Text
  | .query query =>
      let (journal, lines) := session.journal.record (query.events session.settings)
      ({ session with journal }, .reply (query.reply session.settings), lines)
  | .setUpJournal level path disk =>
      match session.withJournal level path disk with
      | (next, some fault) => (next, .journalSetUp (.error fault), [])
      | (next, none) => (next, .journalSetUp (.ok (next.journal.level, next.journal.handlers)), [])
  | .readJournal file => (session, .journalLines (session.journal.linesOf file), [])
  | .commandLine arguments input disk =>
      let (next, transcript) := session.runCommandLine arguments input disk
      (next, .transcript transcript, [])

def run (session : Session) : List Request → List (Session × Response × List Text)
  | [] => []
  | request :: rest =>
      let reached := session.step request
      reached :: run reached.1 rest

end Session

end Reckoner
