import Reckoner.Proofs.Journal.Wording
import Reckoner.Proofs.Session.Step

/-!
# One line for each event

Whatever a request is about, its events are worded in printable characters. So each event that is
noted ends exactly one line of the console and one of the journal's file, and no text that is asked
about can add a line, break one or take one back.
-/

namespace Reckoner

open Text

set_option autoImplicit false

namespace CommandLine

variable (settings : Settings) (format : Format)

theorem is_plain_run_expression (expression : Text) :
    ∀ event ∈ (runExpression settings format expression).events, event.IsPlain := by
  unfold runExpression
  dsimp only
  split
  · exact List.forall_mem_nil _
  · split
    · exact Journal.Event.is_plain_of_answer settings _
    · exact Journal.Event.is_plain_of_answer settings _

theorem is_plain_run_line (line : Text) :
    ∀ event ∈ (runLine settings format line).events, event.IsPlain := by
  unfold runLine
  dsimp only
  split
  · exact Journal.Event.is_plain_of_edit settings _ _
  · exact Journal.Event.is_plain_of_edit settings _ _

theorem is_plain_dialogue (lines : List Text) :
    ∀ event ∈ (dialogue settings format lines).events, event.IsPlain := by
  induction lines with
  | nil => exact List.forall_mem_nil _
  | cons line rest ih =>
      unfold dialogue turn
      cases Command.ofLine line with
      | nothing | help => exact List.forall_mem_append.2 ⟨List.forall_mem_nil _, ih⟩
      | leave => exact List.forall_mem_nil _
      | expression raw =>
          have answered := is_plain_run_expression settings format raw
          dsimp only
          cases (runExpression settings format raw).ending with
          | ok code => exact List.forall_mem_append.2 ⟨answered, ih⟩
          | error fault => exact answered

theorem is_plain_run (options : Options) (input : Text) :
    ∀ event ∈ (run settings options input).events, event.IsPlain := by
  unfold run
  split
  · exact List.forall_mem_nil _
  · split
    · exact is_plain_run_line settings _ _
    · exact List.forall_mem_nil _
    · exact is_plain_run_expression settings _ _
    · exact List.forall_mem_nil _
    · exact is_plain_dialogue settings _ _

end CommandLine

theorem Query.is_plain_events (settings : Settings) (query : Query) :
    ∀ event ∈ query.events settings, event.IsPlain := by
  cases query with
  | value expression | validity expression => exact Journal.Event.is_plain_of_expression expression
  | extraction raw => exact Journal.Event.is_plain_of_extraction _ raw
  | answer raw | answerText raw => exact Journal.Event.is_plain_of_answer settings raw
  | edit field caret => exact Journal.Event.is_plain_of_edit settings field _
  | hostRun field changes => exact Journal.Event.is_plain_of_host_run settings _ changes
  | _ => exact List.forall_mem_nil _

theorem Request.is_plain_events (settings : Settings) (request : Request) :
    ∀ event ∈ request.events settings, event.IsPlain := by
  unfold events
  split
  · exact Query.is_plain_events settings _
  · exact List.forall_mem_nil _
  · exact List.forall_mem_nil _
  · split
    · unfold runEvents
      split
      · exact CommandLine.is_plain_run _ _ _
      · exact List.forall_mem_nil _
    · exact List.forall_mem_nil _

namespace Journal

variable (journal : Journal) {events : List Event}

theorem is_shown_noted (level : Int) (plain : ∀ event ∈ events, event.IsPlain) :
    ∀ line ∈ noted level events, IsShown line := by
  intro line member
  obtain ⟨event, severe, rfl⟩ := List.mem_map.1 member
  exact Event.is_shown_line_of (plain event (List.mem_of_mem_filter severe))

theorem is_shown_on_console (plain : ∀ event ∈ events, event.IsPlain) :
    ∀ line ∈ journal.onConsole events, IsShown line := by
  unfold onConsole
  split
  · exact is_shown_noted _ plain
  · exact List.forall_mem_nil _

theorem is_shown_in_file (path : Text) (plain : ∀ event ∈ events, event.IsPlain) :
    ∀ line ∈ journal.inFile path events, IsShown line := by
  unfold inFile
  split
  · exact is_shown_noted _ plain
  · exact List.forall_mem_nil _

end Journal

/-- Whatever a request is about, each of its events is worded in printable characters and, with its
time and all, is one line. So to write the events to the console and to files finishes one line for
each that is noted, and leaves all that was written before as it was. -/
theorem Session.one_line_for_each_event (session : Session) (request : Request) :
    let next := (session.step request).1
    let journal := session.journalFor request
    let events := request.events session.settings
    (∀ event ∈ events, IsShown event.message ∧
      ∀ created line, (event.entry created).text = .ok line →
        finishedLines (written [line]) = [line]) ∧
    finishedLines (written (shown (session.step request).2)) =
      finishedLines (written request.refusalLines) ++ journal.onConsole events ∧
    ∀ path, finishedLines (written (next.journal.contents path)) =
      finishedLines (written (session.journal.contents path)) ++ journal.inFile path events := by
  have plain := request.is_plain_events session.settings
  have taken := takes_step session request
  refine ⟨?_, ?_, ?_⟩
  · intro event member
    have own := plain event member
    refine ⟨Journal.Event.is_shown_message own, ?_⟩
    intro created line told
    have shown := Journal.Event.is_shown_entry own told
    exact finished_lines_of_shown (List.forall_mem_singleton.2 shown)
  · rw [taken.lines, finished_lines_written _ (Journal.is_shown_on_console _ plain)]
  · intro path
    rw [taken.contents, finished_lines_written _ (Journal.is_shown_in_file _ path plain)]

/-- A text that would begin a line of its own is quoted in one line and makes no other. -/
theorem Session.line_break_stays_quoted :
    let session : Session := ⟨{}, ({} : Journal).setAt Journal.Severity.debug.number none⟩
    let raw := "1\n[INFO] 2".toList
    let event := Journal.Event.extracted ⟨"1 2".toList, some "INFO".toList⟩ raw
    let line := "1970-01-01T00:00:00 [DEBUG] inlinemath.extractor: ".toList
      ++ "Extracted Extraction(expression='1 2', unit='INFO') from '1\\n[INFO] 2'".toList
    event ∈ Request.events session.settings (.query (.answer raw)) ∧
      (event.entry (.whole 0)).text = .ok line ∧ finishedLines (written [line]) = [line] ∧
      (finishedLines (written (shown (session.step (.query (.answer raw))).2))).length = 3 := by
  intro session raw event line
  obtain ⟨each, console, _⟩ := one_line_for_each_event session (.query (.answer raw))
  have noted : event ∈ Request.events session.settings (.query (.answer raw)) := by decide +kernel
  have told : (event.entry (.whole 0)).text = .ok line := by decide +kernel
  refine ⟨noted, told, (each event noted).2 _ _ told, ?_⟩
  rw [console]
  decide +kernel

end Reckoner
