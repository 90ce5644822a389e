import Reckoner.Journal.Layout

/-!
# Message templates

A template is a text with placeholders, which arguments are set into from left to right. Two percent
signs in a row are one that stands for itself. Arguments that come in order must be as many as the
placeholders take; arguments with names may be left over. Of several misfits the leftmost is found.
-/

namespace Reckoner.Journal

set_option autoImplicit false

def Placeholder.fill (placeholder : Placeholder) (position : Nat)
    (names : Option (List (Text × Argument))) (arguments : List Argument) :
    Except Misfit (Text × List Argument) := do
  let chosen ← placeholder.selector.choose names arguments
  let (width, afterWidth) ← placeholder.width.asWidth chosen
  let (precision, afterPrecision) ← Size.asPrecision placeholder.precision afterWidth
  match placeholder.directive, afterPrecision with
  | none, _ => throw .unfinishedPlaceholder
  | some _, [] => throw .missingArgument
  | some directive, argument :: others =>
      match Conversion.directives.lookup directive with
      | none => throw (.unknownDirective directive position)
      | some conversion => do
          let layout : Layout := ⟨placeholder.flags, width, precision⟩
          return (← layout.set directive argument conversion, others)

/-- The rest of a template, which ends at a position, with arguments set into it. -/
def filledUntil (stop : Nat) (names : Option (List (Text × Argument))) (template : Text)
    (arguments : List Argument) : Except Misfit Text :=
  match template with
  | [] => if arguments.isEmpty || names.isSome then .ok [] else .error .leftoverArgument
  | '%' :: '%' :: rest => (filledUntil stop names rest arguments).map ('%' :: ·)
  | '%' :: rest => do
      let after := (Placeholder.read rest).2
      let (text, others) ←
        (Placeholder.read rest).1.fill (stop - after.length - 1) names arguments
      (filledUntil stop names after others).map (text ++ ·)
  | c :: rest => (filledUntil stop names rest arguments).map (c :: ·)
termination_by template.length
decreasing_by
  · exact Nat.lt_succ_of_lt (Nat.lt_succ_self _)
  · exact Nat.lt_succ_of_le (Placeholder.length_read_le _)
  · simp

def filled (template : Text) (arguments : Arguments) : Except Misfit Text :=
  filledUntil template.length arguments.names? template arguments.ordered

end Reckoner.Journal
