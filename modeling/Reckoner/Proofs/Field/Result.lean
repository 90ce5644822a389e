import Reckoner.Proofs.Answer.Outcome
import Reckoner.Proofs.Field.Equation

/-!
# Results on a line

What is answered to a text with a digit fits on a line and leaves a mark at its end, if the text in
place of a failure does.
-/

namespace Reckoner.Field

open Extraction (IsUnit signedText)

set_option autoImplicit false

theorem Fits.of_not_blank {text : Text} (nonempty : text ≠ [])
    (marked : ∀ c ∈ text, Text.isBlank c = false) : Fits text where
  nonempty := nonempty
  inLine := fun c member => is_in_line_of_not_blank (marked c member)
  marked := fun c member => marked c (List.mem_of_getLast? member)

theorem Fits.append {front text : Text} (inLine : ∀ c ∈ front, isInLine c = true)
    (fits : Fits text) : Fits (front ++ text) where
  nonempty := List.append_ne_nil_of_right_ne_nil _ fits.nonempty
  inLine := by
    intro c member
    rcases List.mem_append.1 member with earlier | later
    · exact inLine c earlier
    · exact fits.inLine c later
  marked := by
    intro c member
    rw [List.getLast?_append_of_ne_nil _ fits.nonempty] at member
    exact fits.marked c member

theorem is_blank_of_mem_signed_text {minus : Bool} {numeral : Numeral}
    (written : numeral.WellFormed)
    {c : Char} (member : c ∈ signedText minus numeral) : Text.isBlank c = false := by
  rcases List.mem_append.1 member with sign | figure
  · cases minus with
    | false => contradiction
    | true =>
        cases List.mem_singleton.1 sign
        decide
  · exact Expression.is_blank_of_mem_text written figure

theorem fits_signed_text {numeral : Numeral} (written : numeral.WellFormed) (minus : Bool) :
    Fits (signedText minus numeral) := by
  apply Fits.of_not_blank
  · obtain ⟨c, rest, same, _⟩ := Expression.text_eq_cons written
    rw [signedText, same]
    exact List.append_ne_nil_of_right_ne_nil _ (List.cons_ne_nil c rest)
  · intro c member
    exact is_blank_of_mem_signed_text written member

theorem fits_with_unit {text : Text} {unit : Option Text} (fits : Fits text) (word : IsUnit unit) :
    Fits (Decimal.withUnit text unit) := by
  cases unit with
  | none => exact fits
  | some letters =>
      obtain ⟨nonempty, inWord⟩ := word letters rfl
      have space : ∀ c ∈ [' '], isInLine c = true := List.all_eq_true.1 rfl
      have unitFits : Fits letters := .of_not_blank nonempty fun c member =>
        Extraction.not_blank_of_is_word_character (inWord c member)
      rw [Extraction.with_unit_eq word]
      exact Fits.append fits.inLine (Fits.append space unitFits)

variable {settings : Settings} {raw : Text}

theorem fits_result_text {answer : Answer} (behind : 0 ≤ settings.places)
    (failure : Fits settings.failureText) (figured : raw.any Char.isDigit = true)
    (outcome : Answer.Outcome settings raw answer) : Fits (Answer.resultText settings answer) := by
  cases outcome with
  | nothing _ plain =>
      rw [plain] at figured
      contradiction
  | value _ _ _ _ _ shown =>
      obtain ⟨minus, numeral, written, rfl, _⟩ := Decimal.fixed_reread behind shown
      exact fits_with_unit (fits_signed_text written minus) (Extraction.is_unit_find_unit raw)
  | _ => exact failure

/-- So does the text that stands in place of a failure unless another one is set. -/
theorem fits_failure_text : Fits ({} : Settings).failureText where
  nonempty := by decide
  inLine := List.all_eq_true.1 (by decide)
  marked := by
    have last : ({} : Settings).failureText.getLast? = some 'n' := by decide
    intro c member
    cases last.symm.trans member
    decide

/-- A text with a digit is answered with a result that fits on a line. -/
theorem fits_text_of {result : Text} (behind : 0 ≤ settings.places)
    (failure : Fits settings.failureText) (figured : raw.any Char.isDigit = true)
    (run : Answer.textOf settings raw = .ok result) : Fits result := by
  unfold Answer.textOf at run
  cases answered : Answer.ofText settings raw with
  | error fault =>
      rw [answered] at run
      contradiction
  | ok answer =>
      rw [answered] at run
      cases run
      exact fits_result_text behind failure figured (Answer.outcome_of_text answered)

end Reckoner.Field
