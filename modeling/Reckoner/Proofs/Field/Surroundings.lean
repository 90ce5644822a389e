import Reckoner.Proofs.Field.Edit

/-!
# The surroundings of a line

What becomes of a field is decided by the line of its caret alone. The text before and behind the
line stays where it is, and wherever in the line the caret stands, the edit is the same.
-/

namespace Reckoner.Field

set_option autoImplicit false

def answeredLine? (settings : Settings) (line : Text) : Except Fault (Option Text) :=
  match Equation.ofLine? line with
  | none => .ok none
  | some equation =>
      (Answer.textOf settings equation.expression).map fun result =>
        some (Equation.answered equation.leftPart equation.expression result)

theorem answered_line_of_none {settings : Settings} {line : Text}
    (quiet : Equation.ofLine? line = none) : answeredLine? settings line = .ok none := by
  rw [answeredLine?, quiet]

theorem answered_line_of_some {settings : Settings} {line : Text} {equation : Equation}
    (asked : Equation.ofLine? line = some equation) :
    answeredLine? settings line =
      (Answer.textOf settings equation.expression).map fun result =>
        some (Equation.answered equation.leftPart equation.expression result) := by
  rw [answeredLine?, asked]

namespace Edit

def ofLine (before behind line : Text) : Edit :=
  ⟨before ++ (line ++ behind), before.length + line.length, line⟩

def surrounded (before behind : Text) (edit : Edit) : Edit :=
  ⟨before ++ (edit.value ++ behind), before.length + edit.caret, edit.announcement⟩

theorem surrounded_of_line (before behind line : Text) :
    surrounded before behind (ofLine [] [] line) = ofLine before behind line := by
  simp [surrounded, ofLine]

end Edit

section Line

variable {settings : Settings} {before line behind : Text} {caret : Nat}

theorem is_line_at_of_breaks (opens : ∀ c ∈ before.getLast?, c = '\n') (inLine : '\n' ∉ line)
    (closes : ∀ c ∈ behind.head?, c = '\n') (inside : caret ≤ line.length) :
    IsLineAt before line behind (before.length + caret) where
  opens := by
    intro c member
    simp [isInLine, opens c member]
  inLine := by
    intro c member
    have other : c ≠ '\n' := ne_of_mem_of_not_mem member inLine
    simpa [isInLine] using other
  closes := by
    intro c member
    simp [isInLine, closes c member]
  lower := Nat.le_add_right _ _
  upper := Nat.add_le_add_left inside _

/-- A field is edited by answering the line of its caret in its place. -/
theorem IsLineAt.of_field_eq (found : IsLineAt before line behind caret) :
    Edit.ofField? settings (before ++ (line ++ behind)) caret =
      (answeredLine? settings line).map (Option.map (Edit.ofLine before behind)) := by
  have same := found.between_eq
  cases asked : Equation.ofLine? line with
  | none =>
      rw [Edit.of_field_of_none (by rw [same, asked]), answered_line_of_none asked]
      rfl
  | some equation =>
      have entered := Equation.ne_nil_of_equation asked
      rw [Edit.of_field_of_some (by rw [same, asked]), found.line_bounds_eq (.inl entered),
        answered_line_of_some asked]
      cases Answer.textOf settings equation.expression with
      | error fault => rfl
      | ok result => simp [Except.map, Edit.replacing_line, Edit.ofLine]

theorem of_field_alone (inLine : '\n' ∉ line) (inside : caret ≤ line.length) :
    Edit.ofField? settings line caret =
      (answeredLine? settings line).map (Option.map (Edit.ofLine [] [])) := by
  have found := @is_line_at_of_breaks [] line [] caret (by simp) inLine (by simp) inside
  have edited := @IsLineAt.of_field_eq settings _ _ _ _ found
  simpa using edited

/-- A line is edited among others as it is on its own: what stands before and behind it is kept and
has no say, and no more has the place of the caret in the line. -/
theorem edited_as_line_alone (opens : ∀ c ∈ before.getLast?, c = '\n') (inLine : '\n' ∉ line)
    (closes : ∀ c ∈ behind.head?, c = '\n') (inside : caret ≤ line.length) :
    Edit.ofField? settings (before ++ (line ++ behind)) ((before.length + caret : Nat) : Int) =
        (Edit.ofField? settings line caret).map (Option.map (Edit.surrounded before behind)) ∧
      ∀ other ≤ line.length,
        Edit.ofField? settings line (other : Nat) = Edit.ofField? settings line caret := by
  have found := is_line_at_of_breaks opens inLine closes inside
  constructor
  · rw [found.of_field_eq, of_field_alone inLine inside]
    cases answeredLine? settings line with
    | error fault => rfl
    | ok answered =>
        cases answered with
        | none => rfl
        | some shown => simp [Except.map, Edit.surrounded_of_line]
  · intro other elsewhere
    rw [of_field_alone inLine elsewhere, of_field_alone inLine inside]

end Line

/-- A line between others that ask for results too, with the caret inside of it. -/
theorem middle_line_edited_as_alone :
    Edit.ofField? {} "1 =  \n2 kg * 3 =  \n=  ".toList 9 =
      .ok (some ⟨"1 =  \n2 kg * 3 = 6 kg \n=  ".toList, 22, "2 kg * 3 = 6 kg ".toList⟩) := by
  have alone : Edit.ofField? {} "2 kg * 3 =  ".toList 3 =
      .ok (some ⟨"2 kg * 3 = 6 kg ".toList, 16, "2 kg * 3 = 6 kg ".toList⟩) := by
    decide +kernel
  have framed := (@edited_as_line_alone {} "1 =  \n".toList "2 kg * 3 =  ".toList "\n=  ".toList 3
    (by simp) (by decide) (by simp) (by decide)).1
  exact framed.trans (congrArg _ alone)

end Reckoner.Field
