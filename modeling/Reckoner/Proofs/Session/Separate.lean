import Reckoner.Proofs.CommandLine.Argument
import Reckoner.Proofs.Session.Step

/-!
# An expression as an argument of its own

An expression can be attached to its option or stand behind it. Attached, it is never refused.
Behind the option it is answered just so if it stands alone, and otherwise the command line is
refused. So it can go wrong there with an expression that begins with a minus.
-/

namespace Reckoner.Session

open CommandLine (Flag StandsAlone)
open CommandLine.Options (asking ofArguments)

set_option autoImplicit false

section Run

variable (session : Session) (input : Text) (disk : Journal.Disk)

theorem run_command_line_congr {arguments others : List Text}
    (same : ofArguments arguments = ofArguments others) :
    session.runCommandLine arguments input disk = session.runCommandLine others input disk := by
  rw [runCommandLine, runCommandLine, same]

end Run

section Expression

variable {expression : Text}

theorem mem_expression_names :
    "-e".toList ∈ Flag.expression.names ∧ "--eval".toList ∈ Flag.expression.names := by
  decide

theorem of_arguments_asking_alone (expression : Text) :
    ofArguments [asking expression] =
      .ok { expression := CommandLine.Options.presented expression } := by
  have empty : ofArguments [] = .ok {} := rfl
  exact CommandLine.Options.of_arguments_asking empty expression

/-- An expression that stands alone is read behind its option as it is read attached to it. -/
theorem of_arguments_separate (alone : StandsAlone expression) :
    ofArguments ["--eval".toList, expression] = ofArguments [asking expression] := by
  rw [of_arguments_asking_alone]
  apply CommandLine.Options.of_arguments_of_stands_alone mem_expression_names.2 rfl alone
  exact CommandLine.Options.chained_expression {} expression

theorem run_command_line_of_not_stands_alone (bound : ¬StandsAlone expression)
    (session : Session) (input : Text) (disk : Journal.Disk) :
    ∃ problem, session.runCommandLine ["--eval".toList, expression] input disk =
      (session, ⟨.ok refusalCode, [], [refusal problem]⟩) := by
  obtain ⟨problem, refused⟩ :=
    CommandLine.Options.of_arguments_of_not_stands_alone mem_expression_names.2 rfl bound
  exact ⟨problem, by rw [runCommandLine, refused]⟩

end Expression

/-- Behind its option an expression is answered as if it were attached exactly if it stands alone.
Otherwise the command line is refused, and nothing changes and nothing is printed. Attached to its
option, no expression is refused. The short name of the option does as well as the long one. -/
theorem separate_expression_answered_if_alone (session : Session) (input expression : Text)
    (disk : Journal.Disk) :
    session.runCommandLine ["-e".toList, expression] input disk =
      session.runCommandLine ["--eval".toList, expression] input disk ∧
    (StandsAlone expression →
      session.runCommandLine ["--eval".toList, expression] input disk =
        session.runCommandLine ["--eval=".toList ++ expression] input disk) ∧
    (¬StandsAlone expression →
      ∃ problem, session.runCommandLine ["--eval".toList, expression] input disk =
        (session, ⟨.ok refusalCode, [], [refusal problem]⟩)) ∧
    (session.runCommandLine ["--eval=".toList ++ expression] input disk).2.ending ≠
      .ok refusalCode ∧
    ((session.runCommandLine ["--eval".toList, expression] input disk).2.ending =
        (session.runCommandLine ["--eval=".toList ++ expression] input disk).2.ending ∧
      (session.runCommandLine ["--eval".toList, expression] input disk).2.output =
        (session.runCommandLine ["--eval=".toList ++ expression] input disk).2.output ↔
      StandsAlone expression) := by
  have attached : "--eval=".toList ++ expression = asking expression := rfl
  have agree : StandsAlone expression →
      session.runCommandLine ["--eval".toList, expression] input disk =
        session.runCommandLine ["--eval=".toList ++ expression] input disk := by
    intro alone
    rw [attached]
    exact run_command_line_congr session input disk (of_arguments_separate alone)
  have accepted : (session.runCommandLine ["--eval=".toList ++ expression] input disk).2.ending ≠
      .ok refusalCode := by
    rw [attached]
    exact ending_ne_refusal_code (of_arguments_asking_alone expression)
  refine ⟨?_, agree, ?_, accepted, ?_⟩
  · obtain ⟨short, long⟩ := mem_expression_names
    apply run_command_line_congr
    exact CommandLine.Options.of_arguments_congr short long [expression]
  · intro bound
    exact run_command_line_of_not_stands_alone bound session input disk
  · constructor
    · intro same
      by_contra bound
      obtain ⟨problem, refused⟩ := run_command_line_of_not_stands_alone bound session input disk
      rw [refused] at same
      exact accepted same.1.symm
    · intro alone
      rw [agree alone]
      exact ⟨rfl, rfl⟩

/-- A sum that begins with a minus is taken for an option, unless it is attached. -/
theorem sum_behind_minus_refused :
    let run :=
      fun arguments => (({ settings := {} } : Session).runCommandLine arguments [] .plain).2
    (run ["--eval".toList, "-5+3".toList]).ending = .ok 2 ∧
    (run ["--eval".toList, "-5+3".toList]).output = [] ∧
    (run ["--eval=-5+3".toList]).ending = .ok 0 ∧
    (run ["--eval=-5+3".toList]).output = "-2\n".toList := by
  decide +kernel

end Reckoner.Session
