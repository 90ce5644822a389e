import Reckoner.Proofs.Answer.Refusal
import Reckoner.Proofs.Field.Equation
import Reckoner.Proofs.Field.Line

/-!
# When a field is edited

A field stays as it is if its line asks for nothing. If the line asks for a result it is edited, or
refused where there is no answer to what the line asks.
-/

namespace Reckoner.Field

set_option autoImplicit false

namespace Edit

variable {settings : Settings} {value : Text} {caret : Int}

theorem of_field_of_none
    (quiet : Equation.ofLine? (between value (lineBounds value caret)) = none) :
    ofField? settings value caret = .ok none := by
  unfold ofField?
  dsimp only
  rw [quiet]

theorem of_field_of_some {equation : Equation}
    (asked : Equation.ofLine? (between value (lineBounds value caret)) = some equation) :
    ofField? settings value caret =
      (Answer.textOf settings equation.expression).map fun result =>
        some (replacing value (lineBounds value caret)
          (Equation.answered equation.leftPart equation.expression result)) := by
  unfold ofField?
  dsimp only
  rw [asked]

theorem of_field_error_iff {fault : Fault} :
    ofField? settings value caret = .error fault ↔
      ∃ equation, Equation.ofLine? (between value (lineBounds value caret)) = some equation ∧
        Answer.textOf settings equation.expression = .error fault := by
  cases asked : Equation.ofLine? (between value (lineBounds value caret)) with
  | none =>
      rw [of_field_of_none asked]
      simp
  | some equation =>
      rw [of_field_of_some asked]
      cases run : Answer.textOf settings equation.expression <;> simp [Except.map, run]

theorem of_field_eq_some {edit : Edit} :
    ofField? settings value caret = .ok (some edit) ↔
      ∃ equation result,
        Equation.ofLine? (between value (lineBounds value caret)) = some equation ∧
          Answer.textOf settings equation.expression = .ok result ∧
          replacing value (lineBounds value caret)
            (Equation.answered equation.leftPart equation.expression result) = edit := by
  cases asked : Equation.ofLine? (between value (lineBounds value caret)) with
  | none =>
      rw [of_field_of_none asked]
      simp
  | some equation =>
      rw [of_field_of_some asked]
      cases run : Answer.textOf settings equation.expression <;> simp [Except.map, run]

theorem of_field_of_bounded (behind : 0 ≤ settings.places) (bounded : settings.places ≤ 91) :
    ∃ edit, ofField? settings value caret = .ok edit := by
  cases asked : Equation.ofLine? (between value (lineBounds value caret)) with
  | none => exact ⟨none, of_field_of_none asked⟩
  | some equation =>
      obtain ⟨result, run⟩ := Answer.text_of_bounded behind bounded equation.expression
      rw [of_field_of_some asked, run]
      exact ⟨_, rfl⟩

end Edit

end Reckoner.Field
