import Reckoner.Proofs.Field.Edit

/-!
# Settings under which everything is answered

A text, a result on its own and an edit are refused together, and only for a number that has too
many digits to be written out. Which numbers have too many is a matter of the number of places.
-/

namespace Reckoner

set_option autoImplicit false

/-- No text and no field is refused. -/
def Settings.AnswerAll (settings : Settings) : Prop :=
  (∀ raw, ∃ answer, Answer.ofText settings raw = .ok answer) ∧
    (∀ raw, ∃ result, Answer.textOf settings raw = .ok result) ∧
    ∀ value caret, ∃ edit, Field.Edit.ofField? settings value caret = .ok edit

namespace Settings

open Reckoner.Field (between lineBounds)

variable {settings : Settings}

theorem answer_all_of_bounded (behind : 0 ≤ settings.places) (bounded : settings.places ≤ 91) :
    settings.AnswerAll := by
  refine ⟨Answer.of_text_of_bounded behind bounded, Answer.text_of_bounded behind bounded, ?_⟩
  intro value caret
  exact Field.Edit.of_field_of_bounded behind bounded

theorem bounded_of_answer_all (behind : 0 ≤ settings.places) (long : 309 ≤ settings.inputLimit)
    (all : settings.AnswerAll) : settings.places ≤ 91 := by
  by_contra far
  have unwritable := Answer.unwritable_long_numeral (by omega) long
  obtain ⟨answer, answered⟩ := all.1 Answer.longNumeral
  rw [Answer.error_of_unwritable behind unwritable] at answered
  contradiction

/-- Only a number with too many digits is refused, wherever the text with it stands. With up to 91
places there is none, and with more there is one as soon as texts can be long enough to name it. -/
theorem refused_only_out_of_range (behind : 0 ≤ settings.places) :
    (∀ raw fault, Answer.ofText settings raw = .error fault ↔
      fault = .tooManyDigits ∧ Answer.Unwritable settings raw) ∧
    (∀ raw fault, Answer.textOf settings raw = .error fault ↔
      fault = .tooManyDigits ∧ Answer.Unwritable settings raw) ∧
    (∀ value caret fault, Field.Edit.ofField? settings value caret = .error fault ↔
      fault = .tooManyDigits ∧ ∃ equation,
        Field.Equation.ofLine? (between value (lineBounds value caret)) = some equation ∧
          Answer.Unwritable settings equation.expression) ∧
    (settings.places ≤ 91 → settings.AnswerAll) ∧
    (309 ≤ settings.inputLimit → settings.AnswerAll → settings.places ≤ 91) := by
  refine ⟨?_, ?_, ?_, answer_all_of_bounded behind, bounded_of_answer_all behind⟩
  · intro raw fault
    exact Answer.of_text_error_iff behind
  · intro raw fault
    rw [Answer.text_of_eq_error, Answer.of_text_error_iff behind]
  · intro value caret fault
    rw [Field.Edit.of_field_error_iff]
    simp only [Answer.text_of_eq_error, Answer.of_text_error_iff behind]
    constructor
    · rintro ⟨equation, asked, same, unwritable⟩
      exact ⟨same, equation, asked, unwritable⟩
    · rintro ⟨same, equation, asked, unwritable⟩
      exact ⟨equation, asked, same, unwritable⟩

/-- One has too many digits down to the 500th place, and so has the line that asks for it. -/
theorem one_refused_at_five_hundred_places :
    Answer.ofText { places := 500 } ['1'] = .error .tooManyDigits ∧
      Field.Edit.ofField? { places := 500 } "1 =  ".toList 5 = .error .tooManyDigits := by
  have unwritable : Answer.Unwritable { places := 500 } ['1'] := by
    refine ⟨by decide, by decide, Binary64.ofDecimal 1 0, by decide +kernel, by decide +kernel,
      .inr ⟨false, ⟨1023 * Nat.pow 2 52, by decide +kernel⟩, by decide +kernel, ?_⟩⟩
    decide +kernel
  obtain ⟨texts, _, fields, _⟩ := @refused_only_out_of_range { places := 500 } (by decide)
  refine ⟨(texts _ _).2 ⟨rfl, unwritable⟩, (fields _ _ _).2 ⟨rfl, ?_⟩⟩
  exact ⟨⟨[], ['1'], ['1']⟩, by decide +kernel, unwritable⟩

/-- The number of places can be set so high that a text with a value is refused. -/
theorem not_answer_all_of_variables :
    ¬∀ (valueOf : Text → Option Text) (settings : Settings),
      ofVariables valueOf = .ok settings → 0 ≤ settings.places → settings.AnswerAll := by
  intro claimed
  have set : ofVariables (fun name => if name = placesVariable then some "500".toList else none) =
      .ok { places := 500 } := by
    decide +kernel
  obtain ⟨answer, answered⟩ := (claimed _ _ set (by decide)).1 ['1']
  have refused : Answer.ofText { places := 500 } ['1'] = .error .tooManyDigits := by
    decide +kernel
  rw [refused] at answered
  contradiction

end Settings

end Reckoner
