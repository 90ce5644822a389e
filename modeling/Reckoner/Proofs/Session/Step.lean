import Reckoner.Proofs.CommandLine.Dialogue
import Reckoner.Proofs.Journal
import Reckoner.Session

/-!
# What a request changes

A request can change the number of places and the journal, and nothing else. What it changes and
which events it leaves follow from the request and the settings alone, so they are said here for all
requests at once, and a step of a session is compared with that.
-/

namespace Reckoner

set_option autoImplicit false

/-- An attempt to set the journal up: its level, and the file that is opened or what stands against
that. -/
structure Journal.Attempt where
  level : Int
  opened : Except Journal.Obstacle (Option Text)

def Journal.Attempt.setUp? (attempt : Journal.Attempt) : Option (Int × Option Text) :=
  attempt.opened.toOption.map (attempt.level, ·)

namespace Request

/-- The options that a request goes by: those of a command line that can be read. -/
def options? : Request → Option CommandLine.Options
  | commandLine arguments _ _ => (CommandLine.Options.ofArguments arguments).toOption
  | _ => none

/-- The name of the level that a request asks for the journal at, with the file that is opened for
it or what stands against that. -/
def journalAsked? : Request → Option (Option Text × Except Journal.Obstacle (Option Text))
  | setUpJournal level path disk => some (level, disk.openedIfAny (Session.pathName path))
  | commandLine arguments _ disk =>
      (CommandLine.Options.ofArguments arguments).toOption.map fun options =>
        (options.journalLevel, disk.openedIfAny (Session.pathName options.journalFile))
  | _ => none

/-- The attempt of a request to set the journal up. With a refused level there is none. -/
def attempt? (settings : Settings) (request : Request) : Option Journal.Attempt :=
  request.journalAsked?.bind fun (name, opened) =>
    (Journal.levelOfName (Session.levelName settings name)).toOption.map (⟨·, opened⟩)

def setUp? (settings : Settings) (request : Request) : Option (Int × Option Text) :=
  (request.attempt? settings).bind Journal.Attempt.setUp?

def places? (request : Request) : Option Int :=
  request.options?.bind fun options =>
    match options.places with
    | .valued places => if 0 ≤ places then some places else none
    | _ => none

/-- The number of places that a request sets. The journal is set up before, and if that fails
nothing is set. -/
def setPlaces? (settings : Settings) (request : Request) : Option Int :=
  (request.setUp? settings).bind fun _ => request.places?

def settingsAfter (settings : Settings) (request : Request) : Settings :=
  { settings with places := (request.setPlaces? settings).getD settings.places }

def runEvents (settings : Settings) (options : CommandLine.Options) (input : Text) :
    List Journal.Event :=
  match CommandLine.settingsAfter settings options with
  | .ok applied => (CommandLine.run applied options input).events
  | .error _ => []

/-- The events of a request. A command line has some only if its journal is set up. -/
def events (settings : Settings) (request : Request) : List Journal.Event :=
  match request with
  | .query asked => asked.events settings
  | .setUpJournal _ _ _ | .readJournal _ => []
  | .commandLine _ input _ =>
      match request.setUp? settings, request.options? with
      | some _, some options => runEvents settings options input
      | _, _ => []

/-- What a request writes to the console besides events: why a command line is refused. -/
def refusalLines : Request → List Text
  | commandLine arguments _ _ =>
      match CommandLine.Options.ofArguments arguments with
      | .error (.problem problem) => [Session.refusal problem]
      | _ => []
  | _ => []

section Read

variable {arguments : List Text} {options : CommandLine.Options}

theorem exists_options_of_set_up {settings : Settings} {input : Text} {disk : Journal.Disk}
    {names : Int × Option Text}
    (granted : setUp? settings (commandLine arguments input disk) = some names) :
    ∃ options, CommandLine.Options.ofArguments arguments = .ok options := by
  cases read : CommandLine.Options.ofArguments arguments with
  | ok options => exact ⟨options, rfl⟩
  | error ending =>
      rw [setUp?, attempt?, journalAsked?, read] at granted
      contradiction

variable (read : CommandLine.Options.ofArguments arguments = .ok options) (settings : Settings)
  (input : Text) (disk : Journal.Disk)

include read

theorem options_of_read : options? (commandLine arguments input disk) = some options := by
  rw [options?, read]
  rfl

theorem refusal_lines_of_read : refusalLines (commandLine arguments input disk) = [] := by
  rw [refusalLines, read]

theorem attempt_of_read :
    attempt? settings (commandLine arguments input disk) =
      (Journal.levelOfName (Session.levelName settings options.journalLevel)).toOption.map
        (⟨·, disk.openedIfAny (Session.pathName options.journalFile)⟩) := by
  rw [attempt?, journalAsked?, read]
  rfl

theorem events_of_read :
    events settings (commandLine arguments input disk) =
      match setUp? settings (commandLine arguments input disk) with
      | some _ => runEvents settings options input
      | none => [] := by
  rw [events, options_of_read read input disk]
  cases setUp? settings (commandLine arguments input disk) <;> rfl

/-- A command line whose journal is set up leaves its number of places in force, if it has one. -/
theorem settings_after_of_read {settings : Settings} {input : Text} {disk : Journal.Disk}
    {names : Int × Option Text}
    (granted : setUp? settings (commandLine arguments input disk) = some names) :
    settingsAfter settings (commandLine arguments input disk) =
      (CommandLine.settingsAfter settings options).toOption.getD settings := by
  have sets : setPlaces? settings (commandLine arguments input disk) =
      places? (commandLine arguments input disk) := by
    rw [setPlaces?, granted]
    rfl
  rw [settingsAfter, sets, places?, options_of_read read input disk]
  unfold CommandLine.settingsAfter
  cases given : options.places with
  | absent => simp [given, Except.toOption]
  | bare => simp [given, Except.toOption]
  | valued places =>
      by_cases behind : 0 ≤ places
      · simp [given, behind, Except.toOption]
      · simp [given, behind, Except.toOption]

end Read

section Attempt

variable {settings : Settings} {request : Request}

theorem set_up_of_opened {level : Int} {file : Option Text}
    (attempted : request.attempt? settings = some ⟨level, .ok file⟩) :
    request.setUp? settings = some (level, file) := by
  rw [setUp?, attempted]
  rfl

theorem attempt_of_set_up {level : Int} {file : Option Text}
    (set : request.setUp? settings = some (level, file)) :
    request.attempt? settings = some ⟨level, .ok file⟩ := by
  obtain ⟨attempt, attempted, succeeds⟩ := Option.bind_eq_some_iff.1 set
  obtain ⟨number, opened⟩ := attempt
  cases opened with
  | error obstacle => contradiction
  | ok found =>
      cases succeeds
      exact attempted

theorem set_up_of_unopened {level : Int} {obstacle : Journal.Obstacle}
    (attempted : request.attempt? settings = some ⟨level, .error obstacle⟩) :
    request.setUp? settings = none := by
  rw [setUp?, attempted]
  rfl

theorem set_up_of_no_attempt (unattempted : request.attempt? settings = none) :
    request.setUp? settings = none := by
  rw [setUp?, unattempted]
  rfl

theorem settings_after_of_no_set_up (unset : request.setUp? settings = none) :
    settingsAfter settings request = settings := by
  rw [settingsAfter, setPlaces?, unset]
  rfl

end Attempt

end Request

namespace Session

def journalFor (session : Session) (request : Request) : Journal :=
  match request.attempt? session.settings with
  | some ⟨level, .ok file⟩ => session.journal.setAt level file
  | some ⟨level, .error _⟩ => session.journal.closedAt level
  | none => session.journal

def shown : Response × List Text → List Text
  | (.transcript transcript, lines) => transcript.console ++ lines
  | (_, lines) => lines

/-- What a request may make of a session, and the lines that it may show on the console: the journal
is set up as the request asks, and then its events are written. -/
structure Takes (session : Session) (request : Request) (next : Session) (lines : List Text) :
    Prop where
  -- The files are compared line by line: to write no events can create an empty one.
  settings : next.settings = request.settingsAfter session.settings
  level : next.journal.level = (session.journalFor request).level
  console : next.journal.console = (session.journalFor request).console
  file : next.journal.file = (session.journalFor request).file
  contents : ∀ path, next.journal.contents path = session.journal.contents path ++
    (session.journalFor request).inFile path (request.events session.settings)
  lines : lines = request.refusalLines ++
    (session.journalFor request).onConsole (request.events session.settings)

section JournalFor

variable {session : Session} {request : Request}

theorem journal_for_opened {level : Int} {file : Option Text}
    (attempted : request.attempt? session.settings = some ⟨level, .ok file⟩) :
    session.journalFor request = session.journal.setAt level file := by
  rw [journalFor, attempted]

theorem journal_for_unopened {level : Int} {obstacle : Journal.Obstacle}
    (attempted : request.attempt? session.settings = some ⟨level, .error obstacle⟩) :
    session.journalFor request = session.journal.closedAt level := by
  rw [journalFor, attempted]

theorem journal_for_no_attempt (unattempted : request.attempt? session.settings = none) :
    session.journalFor request = session.journal := by
  rw [journalFor, unattempted]

theorem contents_journal_for (path : Text) :
    (session.journalFor request).contents path = session.journal.contents path := by
  unfold journalFor
  split
  · exact Journal.contents_set_at _ _ _ _
  · rfl
  · rfl

end JournalFor

section Takes

variable {session : Session} {request : Request} {settings : Settings}

theorem takes_of_record (applied : settings = request.settingsAfter session.settings)
    (accepted : request.refusalLines = []) :
    session.Takes request
      ⟨settings, ((session.journalFor request).record (request.events session.settings)).1⟩
      ((session.journalFor request).record (request.events session.settings)).2 where
  settings := applied
  level := rfl
  console := rfl
  file := rfl
  contents path := by rw [Journal.contents_record, contents_journal_for]
  lines := by
    rw [accepted]
    rfl

theorem takes_of_no_events (applied : settings = request.settingsAfter session.settings)
    (silent : request.events session.settings = []) :
    session.Takes request ⟨settings, session.journalFor request⟩ request.refusalLines where
  settings := applied
  level := rfl
  console := rfl
  file := rfl
  contents path := by rw [silent, Journal.in_file_nil, List.append_nil, contents_journal_for]
  lines := by rw [silent, Journal.on_console_nil, List.append_nil]

/-- Where the journal is not set up, no setting changes. -/
theorem takes_of_no_set_up (unset : request.setUp? session.settings = none)
    (silent : request.events session.settings = []) :
    session.Takes request ⟨session.settings, session.journalFor request⟩
      request.refusalLines :=
  takes_of_no_events (Request.settings_after_of_no_set_up unset).symm silent

theorem takes_nothing (unattempted : request.attempt? session.settings = none)
    (silent : request.events session.settings = []) :
    session.Takes request session request.refusalLines := by
  have taken := takes_of_no_set_up (Request.set_up_of_no_attempt unattempted) silent
  rw [journal_for_no_attempt unattempted] at taken
  exact taken

end Takes

section WithJournal

variable {session : Session} {name path : Option Text} {disk : Journal.Disk} {level : Int}

theorem with_journal_of_refused {fault : Fault}
    (refused : Journal.levelOfName (levelName session.settings name) = .error fault) :
    session.withJournal name path disk = (session, some fault) := by
  rw [withJournal, Journal.setUp, refused]

variable (known : Journal.levelOfName (levelName session.settings name) = .ok level)

include known

theorem with_journal_of_unopened {obstacle : Journal.Obstacle}
    (unopened : disk.openedIfAny (pathName path) = .error obstacle) :
    session.withJournal name path disk =
      (⟨session.settings, session.journal.closedAt level⟩, some (.fileUnopened obstacle)) := by
  rw [withJournal, Journal.setUp, known]
  dsimp only
  rw [unopened]

theorem with_journal_of_opened {file : Option Text}
    (opens : disk.openedIfAny (pathName path) = .ok file) :
    session.withJournal name path disk =
      (⟨session.settings, session.journal.setAt level file⟩, none) := by
  rw [withJournal, Journal.setUp, known]
  dsimp only
  rw [opens]

end WithJournal

section CommandLine

variable {session : Session} {arguments : List Text} {input : Text} {disk : Journal.Disk}
  {options : CommandLine.Options} {fault : Fault} {level : Int}
  (read : CommandLine.Options.ofArguments arguments = .ok options)

include read

theorem run_command_line_of_refused
    (refused : Journal.levelOfName (levelName session.settings options.journalLevel) =
      .error fault) :
    session.runCommandLine arguments input disk = (session, ⟨.error fault, [], []⟩) := by
  rw [runCommandLine, read]
  dsimp only
  rw [with_journal_of_refused refused]

variable (known : Journal.levelOfName (levelName session.settings options.journalLevel) =
  .ok level)

include known

theorem run_command_line_of_unopened {obstacle : Journal.Obstacle}
    (unopened : disk.openedIfAny (pathName options.journalFile) = .error obstacle) :
    session.runCommandLine arguments input disk =
      (⟨session.settings, session.journal.closedAt level⟩,
        ⟨.error (.fileUnopened obstacle), [], []⟩) := by
  rw [runCommandLine, read]
  dsimp only
  rw [with_journal_of_unopened known unopened]

variable {file : Option Text} (opens : disk.openedIfAny (pathName options.journalFile) = .ok file)

include opens

theorem run_command_line_of_misapplied
    (misapplied : CommandLine.settingsAfter session.settings options = .error fault) :
    session.runCommandLine arguments input disk =
      (⟨session.settings, session.journal.setAt level file⟩, ⟨.error fault, [], []⟩) := by
  rw [runCommandLine, read]
  dsimp only
  rw [with_journal_of_opened known opens]
  simp only [withOptions, misapplied, Except.map]

theorem run_command_line_of_applied {settings : Settings}
    (applied : CommandLine.settingsAfter session.settings options = .ok settings) :
    session.runCommandLine arguments input disk =
      runOptions ⟨settings, session.journal.setAt level file⟩ options input := by
  rw [runCommandLine, read]
  dsimp only
  rw [with_journal_of_opened known opens]
  simp only [withOptions, applied, Except.map]

end CommandLine

section Ended

variable {session : Session} {arguments : List Text} {input : Text} {disk : Journal.Disk}
  {options : CommandLine.Options} (read : CommandLine.Options.ofArguments arguments = .ok options)

include read

/-- A run that ends with a code has set the journal up and got as far as its options. -/
theorem run_of_ending {code : Nat}
    (ended : (session.runCommandLine arguments input disk).2.ending = .ok code) :
    ∃ level file settings,
      Journal.levelOfName (levelName session.settings options.journalLevel) = .ok level ∧
      disk.openedIfAny (pathName options.journalFile) = .ok file ∧
      (CommandLine.run settings options input).ending = .ok code := by
  cases known : Journal.levelOfName (levelName session.settings options.journalLevel) with
  | error fault =>
      rw [run_command_line_of_refused read known] at ended
      contradiction
  | ok level =>
      cases opens : disk.openedIfAny (pathName options.journalFile) with
      | error obstacle =>
          rw [run_command_line_of_unopened read known opens] at ended
          contradiction
      | ok file =>
          cases applied : CommandLine.settingsAfter session.settings options with
          | error fault =>
              rw [run_command_line_of_misapplied read known opens applied] at ended
              contradiction
          | ok settings =>
              rw [run_command_line_of_applied read known opens applied] at ended
              exact ⟨level, file, settings, rfl, rfl, ended⟩

/-- A command line that can be read ends with no code that a refused one ends with. -/
theorem ending_ne_refusal_code :
    (session.runCommandLine arguments input disk).2.ending ≠ .ok refusalCode := by
  intro ended
  obtain ⟨_, _, _, _, _, finished⟩ := run_of_ending read ended
  exact absurd (CommandLine.code_of_run finished) (by decide)

end Ended

section Step

variable {session : Session} {disk : Journal.Disk}

theorem takes_set_up_journal (name path : Option Text) :
    session.Takes (.setUpJournal name path disk) (session.step (.setUpJournal name path disk)).1
      (shown (session.step (.setUpJournal name path disk)).2) := by
  have asked : Request.attempt? session.settings (.setUpJournal name path disk) =
      (Journal.levelOfName (levelName session.settings name)).toOption.map
        (⟨·, disk.openedIfAny (pathName path)⟩) := rfl
  unfold step
  dsimp only
  cases known : Journal.levelOfName (levelName session.settings name) with
  | error fault =>
      rw [known] at asked
      rw [with_journal_of_refused known]
      exact takes_nothing asked rfl
  | ok level =>
      rw [known] at asked
      cases opens : disk.openedIfAny (pathName path) with
      | error obstacle =>
          rw [opens] at asked
          rw [with_journal_of_unopened known opens, ← journal_for_unopened asked]
          exact takes_of_no_set_up (Request.set_up_of_unopened asked) rfl
      | ok file =>
          rw [opens] at asked
          have applied : session.settings =
              Request.settingsAfter session.settings (.setUpJournal name path disk) := by
            rw [Request.settingsAfter, Request.setPlaces?, Request.set_up_of_opened asked]
            rfl
          rw [with_journal_of_opened known opens, ← journal_for_opened asked]
          exact takes_of_no_events applied rfl

theorem takes_unread {arguments : List Text} {input : Text} {ending : CommandLine.Ending}
    (read : CommandLine.Options.ofArguments arguments = .error ending) :
    session.Takes (.commandLine arguments input disk) session
      (Request.refusalLines (.commandLine arguments input disk)) := by
  have unattempted : Request.attempt? session.settings (.commandLine arguments input disk) =
      none := by
    rw [Request.attempt?, Request.journalAsked?, read]
    rfl
  apply takes_nothing unattempted
  rw [Request.events, Request.set_up_of_no_attempt unattempted]

theorem takes_read {arguments : List Text} {input : Text} {options : CommandLine.Options}
    (read : CommandLine.Options.ofArguments arguments = .ok options) :
    session.Takes (.commandLine arguments input disk)
      (session.runCommandLine arguments input disk).1
      (session.runCommandLine arguments input disk).2.console := by
  have accepted := Request.refusal_lines_of_read read input disk
  have asked := Request.attempt_of_read read session.settings input disk
  have noted := Request.events_of_read read session.settings input disk
  cases known : Journal.levelOfName (levelName session.settings options.journalLevel) with
  | error fault =>
      rw [known] at asked
      rw [Request.set_up_of_no_attempt asked] at noted
      rw [run_command_line_of_refused read known, ← accepted]
      exact takes_nothing asked noted
  | ok level =>
      rw [known] at asked
      cases opens : disk.openedIfAny (pathName options.journalFile) with
      | error obstacle =>
          rw [opens] at asked
          have unset := Request.set_up_of_unopened asked
          rw [unset] at noted
          rw [run_command_line_of_unopened read known opens, ← accepted,
            ← journal_for_unopened asked]
          exact takes_of_no_set_up unset noted
      | ok file =>
          rw [opens] at asked
          have set := Request.set_up_of_opened asked
          rw [set] at noted
          have left := Request.settings_after_of_read read set
          have place := journal_for_opened asked
          cases applies : CommandLine.settingsAfter session.settings options with
          | error fault =>
              -- The run stops between the set-up and its first event.
              rw [applies] at left
              simp only [Request.runEvents, applies] at noted
              rw [run_command_line_of_misapplied read known opens applies, ← accepted, ← place]
              exact takes_of_no_events left.symm noted
          | ok settings =>
              rw [applies] at left
              simp only [Request.runEvents, applies] at noted
              rw [run_command_line_of_applied read known opens applies, ← place]
              have taken := takes_of_record left.symm accepted
              rw [noted] at taken
              exact taken

/-- Every request takes a session where it should. -/
theorem takes_step (session : Session) (request : Request) :
    session.Takes request (session.step request).1 (shown (session.step request).2) := by
  cases request with
  | query query => exact takes_of_record rfl rfl
  | setUpJournal name path disk => exact takes_set_up_journal name path
  | readJournal file => exact takes_nothing rfl rfl
  | commandLine arguments input disk =>
      simp only [step, shown, List.append_nil]
      cases read : CommandLine.Options.ofArguments arguments with
      | ok options => exact takes_read read
      | error ending =>
          have taken := @takes_unread session disk arguments input ending read
          rw [runCommandLine, read]
          cases ending with
          | help => simpa only [Request.refusalLines, read] using taken
          | problem problem => simpa only [Request.refusalLines, read] using taken

end Step

end Session

end Reckoner
