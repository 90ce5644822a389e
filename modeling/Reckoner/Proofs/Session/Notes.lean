import Reckoner.Proofs.CommandLine.Reading
import Reckoner.Proofs.Session.History

/-!
# What a session writes to its journal

Each event that is severe enough for the set-up of the journal in force is written once to the
console, and once to the file if the set-up named one. Nothing else is written, and no line is ever
taken back. At a less severe level the same is written and more.

The set-up in force is the last one, unless an attempt to set the journal up has failed since for
its file: then no set-up is in force, and events are lost until the journal is set up again.
-/

namespace Reckoner.Session

set_option autoImplicit false

def handlersOf : Option (Int × Option Text) → Nat
  | none => 0
  | some (_, none) => 1
  | some (_, some _) => 2

def linesBy (setUp : Option (Int × Option Text)) (events : List Journal.Event) : List Text :=
  match setUp with
  | none => []
  | some (level, _) => Journal.noted level events

/-- The lines tell of the events as a set-up says. Without one nothing is told. -/
inductive WrittenBy : Option (Int × Option Text) → List Journal.Event → List Text → Prop
  | off {events : List Journal.Event} : WrittenBy none events []
  | on {level : Int} {file : Option Text} {events : List Journal.Event} {lines : List Text} :
      Journal.TellsOf level events lines → WrittenBy (some (level, file)) events lines

theorem written_by_lines_by (setUp : Option (Int × Option Text)) (events : List Journal.Event) :
    WrittenBy setUp events (linesBy setUp events) := by
  cases setUp with
  | none => exact .off
  | some names => exact .on (Journal.tells_of_noted names.1 events)

theorem eq_none_of_no_handlers {setUp : Option (Int × Option Text)}
    (noHandlers : handlersOf setUp = 0) : setUp = none := by
  match setUp with
  | none => rfl
  | some (_, none) => contradiction
  | some (_, some _) => contradiction

/-- The number of handlers is that of the last set-up only if that is in force. -/
theorem handlers_in_force_iff (settings : Settings) (requests : List Request) :
    handlersOf (setUpInForce settings requests) = handlersOf (lastSetUp settings requests) ↔
      KeepsSetUp settings requests := by
  rw [← in_force_eq_last_iff]
  constructor
  · intro same
    cases inForce : setUpInForce settings requests with
    | some setUp => exact (last_set_up_of_in_force settings requests inForce).symm
    | none =>
        rw [inForce] at same
        exact (eq_none_of_no_handlers same.symm).symm
  · intro same
    rw [same]

def detailName : Text := "DEBUG".toList

section Kept

variable {session : Session} {attempt : Option Journal.Attempt}

theorem NotesBy.handlers {journal : Journal} (notes : NotesBy journal attempt) :
    journal.handlers = handlersOf (attempt.bind Journal.Attempt.setUp?) := by
  rw [Journal.handlers, notes.console, notes.file]
  match attempt.bind Journal.Attempt.setUp? with
  | none => rfl
  | some (_, none) => rfl
  | some (_, some _) => rfl

/-- Where the journal is on, its level is that of the set-up in force. -/
theorem NotesBy.level_of_in_force {journal : Journal} (notes : NotesBy journal attempt)
    {names : Int × Option Text} (inForce : attempt.bind Journal.Attempt.setUp? = some names) :
    journal.level = names.1 := by
  obtain ⟨made, attempted, succeeds⟩ := Option.bind_eq_some_iff.1 inForce
  obtain ⟨file, _, same⟩ := Option.map_eq_some_iff.1 succeeds
  rw [notes.level made attempted, ← same]

theorem NotesBy.on_console {journal : Journal} (notes : NotesBy journal attempt)
    (events : List Journal.Event) :
    journal.onConsole events = linesBy (attempt.bind Journal.Attempt.setUp?) events := by
  rw [Journal.onConsole, notes.console]
  cases inForce : attempt.bind Journal.Attempt.setUp? with
  | none => rfl
  | some names =>
      rw [notes.level_of_in_force inForce]
      rfl

theorem NotesBy.in_file {journal : Journal} (notes : NotesBy journal attempt) (path : Text)
    (events : List Journal.Event) :
    journal.inFile path events =
      if (attempt.bind Journal.Attempt.setUp?).bind Prod.snd = some path then
        linesBy (attempt.bind Journal.Attempt.setUp?) events else [] := by
  rw [Journal.inFile, notes.file]
  cases inForce : attempt.bind Journal.Attempt.setUp? with
  | none => rfl
  | some names =>
      rw [notes.level_of_in_force inForce]
      rfl

/-- One request has its events written as the last attempt says, its own included. -/
theorem NotesBy.step (notes : NotesBy session.journal attempt) (request : Request) :
    let last := ((request.attempt? session.settings).or attempt).bind Journal.Attempt.setUp?
    let lines := linesBy last (request.events session.settings)
    shown (session.step request).2 = request.refusalLines ++ lines ∧
      ∀ path, (session.step request).1.journal.contents path =
        session.journal.contents path ++
          if last.bind Prod.snd = some path then lines else [] := by
  have noting := notes_by_journal_for request notes
  have taken := takes_step session request
  constructor
  · rw [taken.lines, noting.on_console]
  · intro path
    rw [taken.contents, noting.in_file]

theorem contents_prefix (path : Text) (requests : List Request) :
    session.journal.contents path <+: (session.after requests).journal.contents path := by
  induction requests using List.reverseRecOn with
  | nil => exact List.prefix_rfl
  | append_singleton front request ih =>
      rw [after_concat, (takes_step _ request).contents]
      exact ih.trans (List.prefix_append _ _)

end Kept

section Detail

variable {session : Session} {level : Int} {file : Option Text} {disk : Journal.Disk}

section CommandLine

variable {arguments : List Text} {input : Text}
  (granted : Request.setUp? session.settings (.commandLine arguments input disk) =
    some (level, file))

include granted

theorem shown_command_line :
    shown (session.step (.commandLine arguments input disk)).2 =
      Journal.noted level
        (Request.events session.settings (.commandLine arguments input disk)) := by
  obtain ⟨options, read⟩ := Request.exists_options_of_set_up granted
  rw [(takes_step session _).lines, Request.refusal_lines_of_read read,
    journal_for_opened (Request.attempt_of_set_up granted)]
  rfl

/-- A command line leaves the same events at each level. -/
theorem shown_noting_at :
    shown (session.step
        (.commandLine (arguments ++ [CommandLine.Options.notingAt detailName]) input disk)).2 =
      Journal.noted Journal.Severity.debug.number
        (Request.events session.settings (.commandLine arguments input disk)) := by
  obtain ⟨options, read⟩ := Request.exists_options_of_set_up granted
  have listed : detailName ∈ CommandLine.Options.journalLevelNames := by decide
  have detailed := CommandLine.Options.of_arguments_noting_at read listed
  have opens : disk.openedIfAny (pathName options.journalFile) = .ok file := by
    have attempted := Request.attempt_of_set_up granted
    rw [Request.attempt_of_read read] at attempted
    obtain ⟨number, _, same⟩ := Option.map_eq_some_iff.1 attempted
    exact congrArg Journal.Attempt.opened same
  have attempted : Request.attempt? session.settings
      (.commandLine (arguments ++ [CommandLine.Options.notingAt detailName]) input disk) =
        some ⟨Journal.Severity.debug.number, .ok file⟩ := by
    rw [Request.attempt_of_read detailed, ← opens]
    rfl
  have set := Request.set_up_of_opened attempted
  rw [shown_command_line set, Request.events_of_read detailed, set, Request.events_of_read read,
    granted]
  rfl

end CommandLine

theorem shown_query_of_set {attempt : Option Journal.Attempt} (query : Query)
    (notes : NotesBy session.journal attempt)
    (inForce : attempt.bind Journal.Attempt.setUp? = some (level, file)) :
    shown (session.step (.query query)).2 =
      Journal.noted level (query.events session.settings) := by
  have place : session.journalFor (.query query) = session.journal := rfl
  rw [(takes_step session _).lines, place, notes.on_console, inForce]
  rfl

theorem shown_query_detailed {path : Option Text}
    (opens : disk.openedIfAny (pathName path) = .ok file) (query : Query) :
    shown ((session.step (.setUpJournal (some detailName) path disk)).1.step (.query query)).2 =
      Journal.noted Journal.Severity.debug.number (query.events session.settings) := by
  have known : Journal.levelOfName (levelName session.settings (some detailName)) =
      .ok Journal.Severity.debug.number := rfl
  have reached : (session.step (.setUpJournal (some detailName) path disk)).1 =
      ⟨session.settings, session.journal.setAt Journal.Severity.debug.number file⟩ := by
    unfold step
    dsimp only
    rw [with_journal_of_opened known opens]
  rw [reached]
  rfl

end Detail

/-- In every session each event of a request that is severe enough for the set-up of the journal in
force is written once, in order, to the console and to the file that the set-up named, and nothing
else is; so the lines of files only grow. The set-up in force is the last one exactly if none is
lost to a file that is not opened, and a set-up that is lost has left nothing to write to. At any
level the lines are those of the same request at the level of details, as far as they are severe
enough. -/
theorem events_noted_once (settings : Settings) (files : List (Text × List Text))
    (requests : List Request) :
    let reached := after ⟨settings, { files }⟩ requests
    reached.journal.handlers = handlersOf (setUpInForce settings requests) ∧
    (setUpInForce settings requests = lastSetUp settings requests ↔
      KeepsSetUp settings requests) ∧
    (reached.journal.handlers = handlersOf (lastSetUp settings requests) ↔
      KeepsSetUp settings requests) ∧
    (∀ request : Request, ∃ lines,
      let setUp := setUpInForce settings (requests ++ [request])
      WrittenBy setUp (request.events reached.settings) lines ∧
      shown (reached.step request).2 = request.refusalLines ++ lines ∧
      ∀ path, (reached.step request).1.journal.contents path =
        reached.journal.contents path ++
          if setUp.bind Prod.snd = some path then lines else []) ∧
    (∀ more path, reached.journal.contents path <+:
      (after ⟨settings, { files }⟩ (requests ++ more)).journal.contents path) ∧
    (∀ query level file, setUpInForce settings requests = some (level, file) →
      ∀ path disk opened, disk.openedIfAny (pathName path) = .ok opened →
      shown (reached.step (.query query)).2 =
        (shown ((reached.step (.setUpJournal (some detailName) path disk)).1.step
          (.query query)).2).filter (Journal.isNotedAt level)) ∧
    ∀ arguments input disk level file,
      Request.setUp? settings (.commandLine arguments input disk) = some (level, file) →
      shown (reached.step (.commandLine arguments input disk)).2 =
        (shown (reached.step (.commandLine
          (arguments ++ [CommandLine.Options.notingAt detailName]) input disk)).2).filter
            (Journal.isNotedAt level) := by
  intro reached
  -- The journal has not been set up before the first request.
  have notes : NotesBy reached.journal (lastAttempt settings requests) :=
    notes_by_after requests ⟨nofun, rfl, rfl⟩
  refine ⟨notes.handlers, in_force_eq_last_iff settings requests, ?_, ?_, ?_, ?_, ?_⟩
  · rw [notes.handlers]
    exact handlers_in_force_iff settings requests
  · intro request
    have stepped := notes.step request
    rw [attempt_after, lastAttempt, ← last_found_concat] at stepped
    exact ⟨_, written_by_lines_by _ _, stepped⟩
  · intro more path
    have goesOn : after ⟨settings, { files }⟩ (requests ++ more) = reached.after more :=
      List.foldl_append
    rw [goesOn]
    exact contents_prefix path more
  · intro query level file inForce path disk opened opens
    rw [shown_query_of_set query notes inForce, shown_query_detailed opens,
      ← Journal.noted_eq_filter]
  · intro arguments input disk level file granted
    have grants : Request.setUp? reached.settings (.commandLine arguments input disk) =
        some (level, file) := by
      rw [Request.setUp?, attempt_after]
      exact granted
    rw [shown_command_line grants, shown_noting_at grants, ← Journal.noted_eq_filter]

/-- A root that is not opened takes the console away with it, and nothing is told of the next
answer, severe enough as its events are. -/
theorem set_up_lost_to_root :
    let requests : List Request := [.setUpJournal (some "DEBUG".toList) none .plain,
      .commandLine ["--log-level=DEBUG".toList, "--log-file=/".toList, "-v".toList] [] .plain]
    let reached := after { settings := {} } requests
    reached.journal.handlers = 0 ∧ handlersOf (lastSetUp {} requests) = 1 ∧
    reached.journal.level = 10 ∧
    shown (reached.step (.query (.answer "1 + 1".toList))).2 = [] ∧
    (Request.events {} (.query (.answer "1 + 1".toList))).map Journal.told =
      ["[DEBUG] inlinemath.extractor: ".toList
          ++ "Extracted Extraction(expression='1 + 1', unit=None) from '1 + 1'".toList,
        "[DEBUG] inlinemath.evaluator: RPN for '1 + 1': 1 1 +".toList] := by
  decide +kernel

end Reckoner.Session
