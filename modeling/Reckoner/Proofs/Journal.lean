import Reckoner.Journal

/-!
# What the journal writes

The journal writes the events that are severe enough, each once and in order, to the console and to
the file that it is set up with. All other lines of its files stay as they are. How severe an event
is can be read off its line, so what is written at a level can be picked out of what is written at
the level of details.
-/

namespace Reckoner.Journal

set_option autoImplicit false

/-- The lines of a file; a file that is not there has none. -/
def contents (journal : Journal) (path : Text) : List Text :=
  (journal.linesOf path).getD []

def onConsole (journal : Journal) (events : List Event) : List Text :=
  if journal.console then noted journal.level events else []

def inFile (journal : Journal) (path : Text) (events : List Event) : List Text :=
  if journal.file = some path then noted journal.level events else []

section Files

variable (path : Text) (lines : List Text)

theorem lookup_appended_self (files : List (Text × List Text)) :
    (appended path lines files).lookup path = some ((files.lookup path).getD [] ++ lines) := by
  induction files with
  | nil => simp [appended]
  | cons entry rest ih =>
      obtain ⟨name, old⟩ := entry
      by_cases same : name = path
      · simp [appended, same]
      · have apart : (path == name) = false := beq_false_of_ne fun equal => same equal.symm
        simp [appended, same, List.lookup_cons, apart, ih]

theorem lookup_appended_of_ne {other : Text} (apart : other ≠ path)
    (files : List (Text × List Text)) :
    (appended path lines files).lookup other = files.lookup other := by
  have different : (other == path) = false := beq_false_of_ne apart
  induction files with
  | nil => simp [appended, List.lookup_cons, different]
  | cons entry rest ih =>
      obtain ⟨name, old⟩ := entry
      by_cases same : name = path
      · simp [appended, same, List.lookup_cons, different]
      · simp [appended, same, List.lookup_cons, ih]

end Files

section Contents

variable (journal : Journal) (path : Text)

theorem contents_set_at (level : Int) (file : Option Text) :
    (journal.setAt level file).contents path = journal.contents path := by
  cases file with
  | none => rfl
  | some named =>
      change ((appended named [] journal.files).lookup path).getD [] = _
      by_cases same : path = named
      · subst same
        rw [lookup_appended_self]
        exact List.append_nil _
      · rw [lookup_appended_of_ne _ _ same]
        rfl

theorem contents_record (events : List Event) :
    (journal.record events).1.contents path =
      journal.contents path ++ journal.inFile path events := by
  unfold inFile
  cases named : journal.file with
  | none => simp [record, named, contents, linesOf]
  | some file =>
      have kept : (journal.record events).1.contents path =
          ((appended file (noted journal.level events) journal.files).lookup path).getD [] := by
        simp only [record, named, contents, linesOf]
      rw [kept]
      by_cases same : path = file
      · subst same
        rw [lookup_appended_self, if_pos rfl]
        rfl
      · rw [lookup_appended_of_ne _ _ same, if_neg fun equal => same (Option.some.inj equal).symm,
          List.append_nil]
        rfl

theorem on_console_nil : journal.onConsole [] = [] := by
  unfold onConsole
  split <;> rfl

theorem in_file_nil : journal.inFile path [] = [] := by
  unfold inFile
  split <;> rfl

end Contents

def Severity.name : Severity → Text
  | debug => "DEBUG".toList
  | info => "INFO".toList

/-- The line that tells of an event: its level, its source and its message. -/
def told (event : Event) : Text :=
  '[' :: event.severity.name ++ "] ".toList ++ event.source ++ ": ".toList ++ event.message

/-- The lines tell of each event that is severe enough for a level, one line each, in order. -/
inductive TellsOf (level : Int) : List Event → List Text → Prop
  | nothing : TellsOf level [] []
  | told {event : Event} {events : List Event} {lines : List Text} :
      effectiveLevel level ≤ event.severity.number → TellsOf level events lines →
      TellsOf level (event :: events) (told event :: lines)
  | untold {event : Event} {events : List Event} {lines : List Text} :
      event.severity.number < effectiveLevel level → TellsOf level events lines →
      TellsOf level (event :: events) lines

theorem line_of_eq_told (event : Event) : lineOf event = told event := by
  rw [lineOf, told, Entry.line]
  cases event.severity <;> rfl

theorem tells_of_noted (level : Int) (events : List Event) :
    TellsOf level events (noted level events) := by
  induction events with
  | nil => exact .nothing
  | cons event rest ih =>
      unfold noted at ih ⊢
      by_cases severe : effectiveLevel level ≤ event.severity.number
      · rw [List.filter_cons_of_pos (by simpa using severe), List.map_cons, line_of_eq_told]
        exact .told severe ih
      · rw [List.filter_cons_of_neg (by simpa using severe)]
        exact .untold (Int.not_le.1 severe) ih

def severityOf (line : Text) : Option Int :=
  (Entry.levelNames.find? (·.2 = line.tail.takeWhile (· ≠ ']'))).map Prod.fst

def isNotedAt (level : Int) (line : Text) : Bool :=
  (severityOf line).any (effectiveLevel level ≤ ·)

theorem severity_of_line_of (event : Event) :
    severityOf (lineOf event) = some event.severity.number := by
  unfold severityOf lineOf Entry.line
  cases event.severity <;> rfl

/-- What is noted at a level is what is noted of details, as far as it is severe enough. -/
theorem noted_eq_filter (level : Int) (events : List Event) :
    noted level events = (noted Severity.debug.number events).filter (isNotedAt level) := by
  have all : ∀ event : Event, effectiveLevel Severity.debug.number ≤ event.severity.number := by
    intro event
    cases event.severity <;> decide
  have tells : isNotedAt level ∘ lineOf =
      fun event => decide (effectiveLevel level ≤ event.severity.number) := by
    funext event
    simp [isNotedAt, severity_of_line_of]
  simp [noted, all, List.filter_map, tells]

end Reckoner.Journal
