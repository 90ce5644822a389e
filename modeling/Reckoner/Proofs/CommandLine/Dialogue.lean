import Mathlib.Algebra.Order.BigOperators.Group.List
import Mathlib.Algebra.Order.Group.Nat
import Reckoner.CommandLine.Console
import Reckoner.Proofs.Answer.Refusal
import Reckoner.Proofs.Text.Trim

/-!
# What the dialogue prints

Each line of the dialogue is answered for itself, up to the first one that ends it. What is printed
for a line is what the answer to one expression would be, except where the line is blank or asks for
help.
-/

namespace Reckoner

set_option autoImplicit false

namespace CommandLine

def leaves (line : Text) : Bool :=
  ["quit".toList, "exit".toList].contains ((Text.trim line).map Text.smallLetter)

def spoken (lines : List Text) : List Text :=
  lines.takeWhile (!leaves ·)

/-- The last thing that the dialogue prints, on a line of its own if no line ends the dialogue. -/
def parting (lines : List Text) : Text :=
  if lines.any leaves then farewell else lastWords

/-- What is printed for a line that does not end the dialogue, where `answer` is printed for an
expression. -/
def replyWith (answer : Text → Text) (line : Text) : Text :=
  if (Text.trim line).isEmpty then []
  else if (Text.trim line).map Text.smallLetter = "help".toList then guidance
  else answer line

def conversation (answer : Text → Text) (lines : List Text) : Text :=
  banner ++ (spoken lines).flatMap (fun line => prompt ++ replyWith answer line) ++ prompt
    ++ parting lines

section Conversation

variable {answer other : Text → Text} {lines : List Text}

theorem conversation_congr (same : ∀ line ∈ spoken lines, answer line = other line) :
    conversation answer lines = conversation other lines := by
  have replies : ∀ line ∈ spoken lines,
      prompt ++ replyWith answer line = prompt ++ replyWith other line := by
    intro line member
    rw [replyWith, replyWith, same line member]
  rw [conversation, conversation, List.flatMap_congr replies]

theorem reply_with_marker : replyWith answer marker = answer marker := by
  have visible : ¬(Text.trim marker).isEmpty = true := by decide
  have apart : (Text.trim marker).map Text.smallLetter ≠ "help".toList := by decide
  rw [replyWith, if_neg visible, if_neg apart]

/-- If one answer is left out, so is a part of the conversation. -/
theorem conversation_ne_of_silent (agree : ∀ line, line ≠ marker → answer line = other line)
    (silent : other marker = []) (loud : answer marker ≠ []) (asked : marker ∈ spoken lines) :
    conversation answer lines ≠ conversation other lines := by
  -- By length: no other line is answered longer, so nothing makes up for the missing answer.
  have shorter : ∀ line, (prompt ++ replyWith other line).length ≤
      (prompt ++ replyWith answer line).length := by
    intro line
    by_cases same : line = marker
    · simp [same, reply_with_marker, silent]
    · simp [replyWith, agree line same]
  have shortest : (prompt ++ replyWith other marker).length <
      (prompt ++ replyWith answer marker).length := by
    simpa [reply_with_marker, silent] using List.length_pos_of_ne_nil loud
  have less := List.sum_lt_sum (l := spoken lines)
    (fun line => (prompt ++ replyWith other line).length)
    (fun line => (prompt ++ replyWith answer line).length)
    (fun line _ => shorter line) ⟨marker, asked, shortest⟩
  intro same
  have lengths := congrArg List.length same
  simp only [conversation, List.length_append, List.length_flatMap] at lengths less
  omega

end Conversation

theorem run_expression_trim (settings : Settings) (format : Format) (expression : Text) :
    runExpression settings format (Text.trim expression) =
      runExpression settings format expression := by
  rw [runExpression, Text.trim_trim, runExpression]

theorem of_line_of_leaves {line : Text} (last : leaves line = true) :
    Command.ofLine line = .leave := by
  have listed : (Text.trim line).map Text.smallLetter = "quit".toList ∨
      (Text.trim line).map Text.smallLetter = "exit".toList := by
    simpa [leaves] using last
  have nonempty : (Text.trim line).isEmpty = false := by
    rw [← List.isEmpty_map (f := Text.smallLetter)]
    rcases listed with word | word
    · rw [word]
      rfl
    · rw [word]
      rfl
  rw [Command.ofLine]
  simp only [nonempty, Bool.false_eq_true, if_false, if_pos listed]

section Codes

variable {settings : Settings} {format : Format}

theorem code_of_turn {line : Text} {code : Nat} {run : Run}
    (ends : turn settings format line = .ends run) (ended : run.ending = .ok code) : code = 0 := by
  unfold turn at ends
  split at ends
  · contradiction
  · cases ends
    cases ended
    rfl
  · contradiction
  · dsimp only at ends
    split at ends
    · contradiction
    · rename_i failed
      cases ends
      rw [failed] at ended
      contradiction

theorem code_of_dialogue {lines : List Text} {code : Nat}
    (ended : (dialogue settings format lines).ending = .ok code) : code = 0 := by
  induction lines with
  | nil =>
      cases ended
      rfl
  | cons line rest ih =>
      rw [dialogue] at ended
      split at ended
      · exact ih ended
      · rename_i ends
        exact code_of_turn ends ended

theorem code_of_run_expression {expression : Text} {code : Nat}
    (ended : (runExpression settings format expression).ending = .ok code) : code ≤ 1 := by
  unfold runExpression at ended
  dsimp only at ended
  split at ended
  · cases ended
    exact Nat.le_refl _
  · split at ended
    · cases ended
      split
      · exact Nat.zero_le _
      · exact Nat.le_refl _
    · contradiction

/-- A run that ends with a code has printed something. -/
theorem output_of_run_expression {expression : Text} {code : Nat}
    (ended : (runExpression settings format expression).ending = .ok code) :
    (runExpression settings format expression).output ≠ [] := by
  unfold runExpression at ended ⊢
  dsimp only at ended ⊢
  split at ended
  · rename_i blank
    rw [if_pos blank]
    exact List.append_ne_nil_of_right_ne_nil _ nofun
  · rename_i solid
    rw [if_neg solid]
    split at ended
    · exact List.append_ne_nil_of_right_ne_nil _ nofun
    · contradiction

theorem code_of_run_line {line : Text} {code : Nat}
    (ended : (runLine settings format line).ending = .ok code) : code = 0 := by
  unfold runLine at ended
  split at ended
  · cases ended
    rfl
  · contradiction

/-- A run ends with success or with the failure of its expression. -/
theorem code_of_run {options : Options} {input : Text} {code : Nat}
    (ended : (run settings options input).ending = .ok code) : code ≤ 1 := by
  unfold run at ended
  split at ended
  · cases ended
    exact Nat.zero_le _
  · split at ended
    · exact (code_of_run_line ended).le.trans (Nat.zero_le _)
    · contradiction
    · exact code_of_run_expression ended
    · contradiction
    · exact (code_of_dialogue ended).le.trans (Nat.zero_le _)

end Codes

section Bounded

variable {settings : Settings} (behind : 0 ≤ settings.places) (bounded : settings.places ≤ 91)
  (format : Format)

include behind bounded

theorem run_expression_of_bounded (expression : Text) :
    ∃ code, (runExpression settings format expression).ending = .ok code := by
  obtain ⟨answer, answered⟩ := Answer.of_text_of_bounded behind bounded (Text.trim expression)
  unfold runExpression
  dsimp only
  split
  · exact ⟨1, rfl⟩
  · rw [answered]
    exact ⟨_, rfl⟩

theorem output_of_bounded (expression : Text) :
    (runExpression settings format expression).output ≠ [] := by
  obtain ⟨code, ended⟩ := run_expression_of_bounded behind bounded format expression
  exact output_of_run_expression ended

theorem turn_of_spoken {line : Text} (goesOn : leaves line = false) :
    ∃ events, turn settings format line = .goesOn
      (replyWith (fun line => (runExpression settings format line).output) line) events := by
  have unlisted : ¬((Text.trim line).map Text.smallLetter = "quit".toList ∨
      (Text.trim line).map Text.smallLetter = "exit".toList) := by
    simpa [leaves] using goesOn
  obtain ⟨code, ending⟩ := run_expression_of_bounded behind bounded format line
  unfold turn Command.ofLine replyWith
  dsimp only
  by_cases blank : (Text.trim line).isEmpty = true
  · rw [if_pos blank, if_pos blank]
    exact ⟨[], rfl⟩
  · rw [if_neg blank, if_neg blank, if_neg unlisted]
    by_cases help : (Text.trim line).map Text.smallLetter = "help".toList
    · rw [if_pos help, if_pos help]
      exact ⟨[], rfl⟩
    · rw [if_neg help, if_neg help]
      dsimp only
      rw [run_expression_trim, ending]
      exact ⟨_, rfl⟩

theorem dialogue_of_bounded (lines : List Text) :
    (dialogue settings format lines).ending = .ok 0 ∧
      banner ++ (dialogue settings format lines).output =
        conversation (fun line => (runExpression settings format line).output) lines := by
  unfold conversation
  induction lines with
  | nil => exact ⟨rfl, by simp [dialogue, spoken, parting]⟩
  | cons line rest ih =>
      cases last : leaves line with
      | true =>
          have ends : turn settings format line =
              .ends { ending := .ok 0, output := farewell } := by
            rw [turn, of_line_of_leaves last]
          rw [dialogue, ends]
          refine ⟨rfl, ?_⟩
          simp [Run.after, spoken, parting, last]
      | false =>
          obtain ⟨events, goesOn⟩ := turn_of_spoken behind bounded format last
          rw [dialogue, goesOn]
          refine ⟨ih.1, ?_⟩
          have others := ih.2
          simp only [List.append_assoc, List.append_cancel_left_eq] at others
          simp [Run.after, spoken, parting, last, others]

end Bounded

end CommandLine

end Reckoner
