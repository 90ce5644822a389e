import Reckoner.Proofs.CommandLine.Reading
import Reckoner.Proofs.Session.Places

/-!
# Dialogues and single runs

A dialogue answers each line as a run for that line alone would. Only the marker, which the dialogue
takes for an expression like any other, cannot be asked for in a run of its own.
-/

namespace Reckoner.Session

set_option autoImplicit false

open CommandLine (Options conversation inputLines marker runExpression spoken)
open CommandLine.Options (asking)

def printedFor (session : Session) (arguments : List Text) (disk : Journal.Disk)
    (expression : Text) : Text :=
  (session.runCommandLine (arguments ++ [asking expression]) [] disk).2.output

section Run

variable {options : Options} (asks : options.asksForDialogue = true) (settings : Settings)
  (input : Text)

include asks

theorem run_of_asks_for_dialogue :
    CommandLine.run settings options input =
      (CommandLine.dialogue settings options.format (inputLines input)).after CommandLine.banner
        [] := by
  have nothingElse : (options.version = false ∧ options.line = .absent) ∧
      options.expression = .absent := by
    simpa [Options.asksForDialogue] using asks
  simp [CommandLine.run, nothingElse]

theorem run_of_presented (expression : Text) :
    CommandLine.run settings { options with expression := Options.presented expression } input =
      if expression = marker then { ending := .error .expressionWithoutValue }
      else runExpression settings options.format expression := by
  have nothingElse : (options.version = false ∧ options.line = .absent) ∧
      options.expression = .absent := by
    simpa [Options.asksForDialogue] using asks
  unfold Options.presented
  by_cases bare : expression = marker
  · simp [CommandLine.run, nothingElse, bare]
  · simp [CommandLine.run, nothingElse, bare]

end Run

theorem can_set_up_of_ending {session : Session} {arguments : List Text} {options : Options}
    {input : Text} {disk : Journal.Disk} {code : Nat}
    (read : Options.ofArguments arguments = .ok options)
    (ended : (session.runCommandLine arguments input disk).2.ending = .ok code) :
    CanSetUp session.settings options disk := by
  obtain ⟨level, file, _, known, opens, _⟩ := run_of_ending read ended
  exact ⟨⟨level, known⟩, opened_if_any_iff.1 ⟨file, opens⟩⟩

section Dialogue

variable {session : Session} {arguments : List Text} {options : Options} {settings : Settings}
  {disk : Journal.Disk} (read : Options.ofArguments arguments = .ok options)
  (asks : options.asksForDialogue = true)
  (applied : CommandLine.settingsAfter session.settings options = .ok settings)

include read asks applied

theorem printed_for_eq (can : CanSetUp session.settings options disk) (line : Text) :
    session.printedFor arguments disk line =
      if line = marker then [] else (runExpression settings options.format line).output := by
  obtain ⟨level, file, known, opens⟩ := can.exists_opened
  have single := Options.of_arguments_asking read line
  rw [printedFor, run_command_line_of_applied single known opens applied]
  simp only [runOptions, run_of_presented asks]
  split <;> rfl

variable (behind : 0 ≤ settings.places) (bounded : settings.places ≤ 91)

include behind bounded

theorem transcript_of_dialogue (can : CanSetUp session.settings options disk) (input : Text) :
    (session.runCommandLine arguments input disk).2.ending = .ok 0 ∧
      (session.runCommandLine arguments input disk).2.output =
        conversation (fun line => (runExpression settings options.format line).output)
          (inputLines input) := by
  obtain ⟨level, file, known, opens⟩ := can.exists_opened
  rw [run_command_line_of_applied read known opens applied]
  simp only [runOptions, run_of_asks_for_dialogue asks]
  exact CommandLine.dialogue_of_bounded behind bounded options.format (inputLines input)

theorem conversation_printed_for_iff (can : CanSetUp session.settings options disk)
    (lines : List Text) :
    conversation (fun line => (runExpression settings options.format line).output) lines =
      conversation (session.printedFor arguments disk) lines ↔ marker ∉ spoken lines := by
  have printed := printed_for_eq read asks applied can
  have agree : ∀ line, line ≠ marker →
      (runExpression settings options.format line).output =
        session.printedFor arguments disk line := by
    intro line apart
    rw [printed, if_neg apart]
  constructor
  · intro same asked
    have silent : session.printedFor arguments disk marker = [] := by
      rw [printed, if_pos rfl]
    have loud := CommandLine.output_of_bounded behind bounded options.format marker
    exact CommandLine.conversation_ne_of_silent agree silent loud asked same
  · intro unasked
    apply CommandLine.conversation_congr
    intro line member
    exact agree line fun same => unasked (same ▸ member)

/-- Every dialogue answers its lines, up to the first one that ends it, with what a run for that
line alone would print, exactly if the journal can be set up and no line that is answered is the
marker. The marker is answered too, but a run for it alone prints nothing. -/
theorem dialogue_repeats_single_runs :
    (∀ input,
      ((session.runCommandLine arguments input disk).2.ending = .ok 0 ∧
        (session.runCommandLine arguments input disk).2.output =
          conversation (session.printedFor arguments disk) (inputLines input)) ↔
      CanSetUp session.settings options disk ∧ marker ∉ spoken (inputLines input)) ∧
    (CanSetUp session.settings options disk →
      ∃ answer : Text → Text,
        (∀ line, line ≠ marker → answer line = session.printedFor arguments disk line) ∧
        answer marker ≠ [] ∧ session.printedFor arguments disk marker = [] ∧
        ∀ input, (session.runCommandLine arguments input disk).2.ending = .ok 0 ∧
          (session.runCommandLine arguments input disk).2.output =
            conversation answer (inputLines input)) := by
  have talk := @transcript_of_dialogue _ _ _ _ disk read asks applied behind bounded
  have same := @conversation_printed_for_iff _ _ _ _ disk read asks applied behind bounded
  constructor
  · intro input
    constructor
    · intro repeats
      have can := can_set_up_of_ending read repeats.1
      have said := (talk can input).2
      exact ⟨can, (same can _).1 (said.symm.trans repeats.2)⟩
    · intro both
      obtain ⟨can, unasked⟩ := both
      have said := talk can input
      exact ⟨said.1, said.2.trans ((same can _).2 unasked)⟩
  · intro can
    have printed := printed_for_eq read asks applied can
    refine ⟨fun line => (runExpression settings options.format line).output, ?_, ?_, ?_, ?_⟩
    · intro line apart
      rw [printed, if_neg apart]
    · exact CommandLine.output_of_bounded behind bounded options.format marker
    · rw [printed, if_pos rfl]
    · exact talk can

end Dialogue

/-- Four lines of a dialogue in JSON with two places, of which the last is not read. -/
theorem third_and_help_repeated :
    let session : Session := { settings := {} }
    let arguments := ["--format=json".toList, "-d2".toList, "--log-file=journal".toList]
    let input := "10 / 3\nhelp\nquit\n2".toList
    (session.runCommandLine arguments input .plain).2.output =
      conversation (session.printedFor arguments .plain) (inputLines input) := by
  intro session arguments input
  let options : Options :=
    { format := .json, places := .valued 2, journalFile := some "journal".toList }
  have read : Options.ofArguments arguments = .ok options := by decide +kernel
  have applied : CommandLine.settingsAfter session.settings options = .ok { places := 2 } := by
    decide +kernel
  have opens : Journal.Disk.plain.opened "journal".toList = .ok "journal".toList := by
    decide +kernel
  have can : CanSetUp session.settings options .plain := by
    constructor
    · exact ⟨30, by decide +kernel⟩
    · intro path named
      cases named
      exact ⟨_, opens⟩
  have repeats := @dialogue_repeats_single_runs session arguments options { places := 2 } .plain
    read (by decide) applied (by decide) (by decide)
  exact ((repeats.1 input).2 ⟨can, by decide +kernel⟩).2

/-- The marker is answered in a dialogue, but not in a run of its own. -/
theorem not_repeated_at_marker :
    ¬∀ input, (({ settings := {} } : Session).runCommandLine [] input .plain).2.output =
      conversation (({ settings := {} } : Session).printedFor [] .plain) (inputLines input) := by
  intro claimed
  have asked := claimed marker
  revert asked
  decide +kernel

end Reckoner.Session
