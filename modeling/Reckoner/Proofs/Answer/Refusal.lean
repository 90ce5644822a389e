import Reckoner.Proofs.Answer.Outcome

/-!
# Which texts are not answered

A text goes without an answer in one case only: its arithmetic comes to a finite number that has
more digits than are ever written. Down to the 91st place no number has, from the 92nd on some do.
-/

namespace Reckoner.Answer

open Extraction (arithmetic tokensOf)

set_option autoImplicit false

def Unwritable (settings : Settings) (raw : Text) : Prop :=
  (raw.length : Int) ≤ settings.inputLimit ∧ raw.any Char.isDigit = true ∧
    ∃ value, Expression.evaluate (arithmetic (tokensOf raw)) = .ok value ∧
      value.isFinite = true ∧ Decimal.OutOfRange value settings.places

section Settings

variable {settings : Settings}

theorem unwritable_of_error {raw : Text} {fault : Fault} (behind : 0 ≤ settings.places)
    (refused : ofText settings raw = .error fault) :
    fault = .tooManyDigits ∧ Unwritable settings raw := by
  rcases outcome_or_unwritten settings raw with ⟨answer, same, _⟩ | ⟨short, figured, unwritten⟩
  · rw [same] at refused
    contradiction
  · obtain ⟨value, reason, run, finite, written, same⟩ := unwritten
    rw [same] at refused
    cases refused
    obtain ⟨rfl, outOfRange⟩ := (Decimal.fixed_error_iff finite behind).1 written
    exact ⟨rfl, short, figured, value, run, finite, outOfRange⟩

theorem error_of_unwritable {raw : Text} (behind : 0 ≤ settings.places)
    (unwritable : Unwritable settings raw) : ofText settings raw = .error .tooManyDigits := by
  obtain ⟨short, figured, value, run, finite, outOfRange⟩ := unwritable
  have unwritten := (Decimal.fixed_error_iff finite behind).2 ⟨rfl, outOfRange⟩
  rw [of_text_of_unwritten short figured run unwritten]
  rfl

/-- Only a number with too many digits keeps a text from being answered. -/
theorem of_text_error_iff {raw : Text} {fault : Fault} (behind : 0 ≤ settings.places) :
    ofText settings raw = .error fault ↔ fault = .tooManyDigits ∧ Unwritable settings raw := by
  constructor
  · exact unwritable_of_error behind
  · rintro ⟨rfl, unwritable⟩
    exact error_of_unwritable behind unwritable

theorem text_of_eq_error {raw : Text} {fault : Fault} :
    textOf settings raw = .error fault ↔ ofText settings raw = .error fault := by
  unfold textOf
  cases ofText settings raw <;> simp [Except.map]

theorem not_unwritable (behind : 0 ≤ settings.places) (bounded : settings.places ≤ 91)
    (raw : Text) : ¬Unwritable settings raw := by
  rintro ⟨_, _, value, _, _, outOfRange⟩
  exact Decimal.not_out_of_range behind bounded outOfRange

theorem of_text_of_bounded (behind : 0 ≤ settings.places) (bounded : settings.places ≤ 91)
    (raw : Text) : ∃ answer, ofText settings raw = .ok answer := by
  cases answered : ofText settings raw with
  | ok answer => exact ⟨answer, rfl⟩
  | error fault =>
      exact absurd (unwritable_of_error behind answered).2 (not_unwritable behind bounded raw)

theorem text_of_bounded (behind : 0 ≤ settings.places) (bounded : settings.places ≤ 91)
    (raw : Text) : ∃ result, textOf settings raw = .ok result := by
  obtain ⟨answer, answered⟩ := of_text_of_bounded behind bounded raw
  rw [textOf, answered]
  exact ⟨_, rfl⟩

/-- The numeral with 309 digits that a finite number is still nearest to. -/
def longNumeral : Text :=
  '1' :: List.replicate 308 '0'

theorem evaluate_long_numeral :
    Expression.evaluate (arithmetic (tokensOf longNumeral)) =
      .ok (Binary64.ofDecimal (Nat.pow 10 308) 0) := by
  decide +kernel

/-- From the 92nd place on there are texts that are not answered. -/
theorem unwritable_long_numeral (far : 92 ≤ settings.places) (long : 309 ≤ settings.inputLimit) :
    Unwritable settings longNumeral := by
  have length : longNumeral.length = 309 := by
    rw [longNumeral, List.length_cons, List.length_replicate]
  refine ⟨by omega, rfl, _, evaluate_long_numeral, by decide +kernel, ?_⟩
  exact Decimal.out_of_range_of_far far

end Settings

end Reckoner.Answer
