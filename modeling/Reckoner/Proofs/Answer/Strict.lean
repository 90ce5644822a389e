import Reckoner.Proofs.Answer.Outcome

/-!
# Answering an expression in strict notation

Running text is read with indulgence, but an expression that needs none is answered with just what
it comes to: its value as it is written out, or what is wrong with it in the same words.
-/

namespace Reckoner.Answer

open Extraction (arithmetic tokensOf)

set_option autoImplicit false

section Strict

variable {settings : Settings} {source text : Text} {found : List Token}

/-- An expression is answered with its value if it has a finite one, as a failure if its value is
not finite, and else with the wording and the code of what is wrong with it. -/
theorem expression_answered_with_its_value
    (short : (source.length : Int) ≤ settings.inputLimit)
    (figured : source.any Char.isDigit = true)
    (normalized : Expression.normal source = .ok text)
    (read : Expression.tokens text = .ok found)
    (behind : 0 ≤ settings.places) (bounded : settings.places ≤ 91) :
    ∃ expression,
      (∀ value, Expression.evaluate source = .ok value → value.isFinite = true →
        ∃ digits, Decimal.fixed value settings.places = .ok digits ∧
          ofText settings source = .ok {
            ok := true
            result := some digits
            value := some value
            expression := some expression
            unit := none }) ∧
      (∀ value, Expression.evaluate source = .ok value → value.isFinite = false →
        ofText settings source = .ok {
          ok := false
          expression := some expression
          error := some (Fault.notFinite value).message
          errorCode := some "NON_FINITE_RESULT".toList }) ∧
      (∀ fault, Expression.evaluate source = .error fault →
        ∃ code, fault.code? = some code ∧
          ofText settings source = .ok {
            ok := false
            expression := some expression
            error := some fault.message
            errorCode := some code }) := by
  have same := Extraction.evaluate_of_strict normalized read figured
  have unitless := Extraction.find_unit_of_strict normalized read
  refine ⟨arithmetic (tokensOf source), ?_, ?_, ?_⟩
  · intro value run finite
    obtain ⟨digits, written⟩ := Decimal.fixed_of_finite finite behind bounded
    refine ⟨digits, written, ?_⟩
    rw [of_text_of_written short figured (same.trans run) written, unitless]
    rfl
  · intro value run other
    have unwritten := Decimal.fixed_of_not_finite other settings.places
    rw [of_text_of_unwritten short figured (same.trans run) unwritten]
    rfl
  · intro fault failed
    have failure := same.trans failed
    obtain ⟨code, known⟩ := code_of_evaluate figured failure
    refine ⟨code, known, ?_⟩
    rw [of_text_of_failure short figured failure, of_fault_of_code known]

end Strict

/-- A share in parentheses, a sign, and the typed multiplication sign next to its blanks. -/
theorem negative_product_with_share_answered :
    ∃ value expression,
      Expression.evaluate "-1.5 X( 2 + 10%)".toList = .ok value ∧
        ofText {} "-1.5 X( 2 + 10%)".toList = .ok {
          ok := true
          result := some "-3.3".toList
          value := some value
          expression := some expression
          unit := none } := by
  have normalized : Expression.normal "-1.5 X( 2 + 10%)".toList =
      .ok "-1.5 *( 2 + 10%)".toList := by
    decide +kernel
  have read : Expression.tokens "-1.5 *( 2 + 10%)".toList = .ok [
      .bare .operator ['-'], .ofNumeral ⟨['1'], ['5'], false⟩, .bare .operator ['*'],
      .bare .openParen ['('], .ofNumeral ⟨['2'], [], false⟩, .bare .operator ['+'],
      .ofNumeral ⟨['1', '0'], [], true⟩, .bare .closeParen [')']] := by
    decide +kernel
  let half := Binary64.ofDecimal 15 1
  let two := Binary64.ofDecimal 2 0
  let tenth := Binary64.ofDecimal 10 0 / Binary64.ofDecimal 100 0
  have run : Expression.evaluate "-1.5 X( 2 + 10%)".toList =
      .ok (-half * (two + two * tenth)) := by
    decide +kernel
  have shown : Decimal.fixed (-half * (two + two * tenth)) 8 = .ok "-3.3".toList := by
    decide +kernel
  obtain ⟨expression, valued, _⟩ := @expression_answered_with_its_value {} _ _ _
    (by decide) (by decide) normalized read (by decide) (by decide)
  obtain ⟨digits, written, answered⟩ := valued _ run (by decide +kernel)
  cases shown.symm.trans written
  exact ⟨_, expression, run, answered⟩

end Reckoner.Answer
