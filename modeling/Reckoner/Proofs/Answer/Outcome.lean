import Reckoner.Proofs.Answer
import Reckoner.Proofs.Decimal.Range
import Reckoner.Proofs.Extraction.Strict

/-!
# What a text is answered

A text is answered in one of six ways, and the text itself says which are left: first its length is
looked at, then whether it has a digit, then its parentheses. Only after that the operands and the
value decide.
-/

namespace Reckoner.Answer

open Extraction (arithmetic findUnit tokensOf)

set_option autoImplicit false

theorem of_fault_of_code {expression : Option Text} {fault : Fault} {code : Text}
    (known : fault.code? = some code) :
    ofFault expression fault = .ok {
      ok := false
      expression
      error := some fault.message
      errorCode := some code } := by
  rw [ofFault, known]

theorem code_of_category {fault : Fault} {category : Category}
    (known : fault.category? = some category) (other : category ≠ .validation) :
    fault.code? = some category.code := by
  cases fault with
  | inputTooLong limit =>
      cases known
      contradiction
  | _ => first | contradiction | exact congrArg (Option.map Category.code) known

theorem code_of_evaluate {raw : Text} {fault : Fault} (figured : raw.any Char.isDigit = true)
    (failed : Expression.evaluate (arithmetic (tokensOf raw)) = .error fault) :
    ∃ code, fault.code? = some code := by
  rcases Extraction.category_of_evaluate figured failed with known | known
  · exact ⟨_, code_of_category known (by decide)⟩
  · exact ⟨_, code_of_category known (by decide)⟩

section Text

variable {settings : Settings} {raw : Text}

theorem of_text_of_long (long : settings.inputLimit < raw.length) :
    ofText settings raw = .ok {
      ok := false
      error := some (Fault.inputTooLong settings.inputLimit).message
      errorCode := some "TOO_LONG".toList } := by
  rw [ofText, Extraction.ofText, Extraction.scan, if_pos long]
  rfl

section Short

variable (short : (raw.length : Int) ≤ settings.inputLimit)

include short

theorem of_text_of_short :
    ofText settings raw =
      ofExtraction settings ⟨arithmetic (tokensOf raw), findUnit (tokensOf raw)⟩ := by
  rw [ofText, Extraction.of_text_of_short short]

theorem of_text_of_no_digit (plain : raw.any Char.isDigit = false) :
    ofText settings raw = .ok { ok := true } := by
  have empty : arithmetic (tokensOf raw) = [] := by
    rw [arithmetic, Extraction.any_is_operand_tokens_of, plain]
    rfl
  rw [of_text_of_short short, empty]
  rfl

variable (figured : raw.any Char.isDigit = true)

include figured

theorem of_text_of_digit :
    ofText settings raw =
      match computed settings ⟨arithmetic (tokensOf raw), findUnit (tokensOf raw)⟩ with
      | .ok (value, text) => .ok {
          ok := true
          result := some text
          value := some value
          expression := some (arithmetic (tokensOf raw))
          unit := findUnit (tokensOf raw) }
      | .error fault => ofFault (some (arithmetic (tokensOf raw))) fault := by
  have nonempty : (arithmetic (tokensOf raw)).isEmpty = false := by
    simpa using Extraction.arithmetic_ne_nil figured
  rw [of_text_of_short short, ofExtraction, Extraction.isEmpty, nonempty]
  rfl

theorem of_text_of_failure {fault : Fault}
    (failed : Expression.evaluate (arithmetic (tokensOf raw)) = .error fault) :
    ofText settings raw = ofFault (some (arithmetic (tokensOf raw))) fault := by
  rw [of_text_of_digit short figured, computed, failed]
  rfl

theorem of_text_of_unwritten {value : Binary64} {fault : Fault}
    (run : Expression.evaluate (arithmetic (tokensOf raw)) = .ok value)
    (unwritten : Decimal.fixed value settings.places = .error fault) :
    ofText settings raw = ofFault (some (arithmetic (tokensOf raw))) fault := by
  have calculated : computed settings ⟨arithmetic (tokensOf raw), findUnit (tokensOf raw)⟩ =
      .error fault := by
    rw [computed, run]
    change Decimal.fixed value settings.places >>= _ = _
    rw [unwritten]
    rfl
  rw [of_text_of_digit short figured, calculated]

theorem of_text_of_written {value : Binary64} {digits : Text}
    (run : Expression.evaluate (arithmetic (tokensOf raw)) = .ok value)
    (written : Decimal.fixed value settings.places = .ok digits) :
    ofText settings raw = .ok {
      ok := true
      result := some (Decimal.withUnit digits (findUnit (tokensOf raw)))
      value := some value
      expression := some (arithmetic (tokensOf raw))
      unit := findUnit (tokensOf raw) } := by
  have calculated : computed settings ⟨arithmetic (tokensOf raw), findUnit (tokensOf raw)⟩ =
      .ok (value, Decimal.withUnit digits (findUnit (tokensOf raw))) :=
    computed_eq_ok_iff.2 ⟨run, digits, written, rfl⟩
  rw [of_text_of_digit short figured, calculated]

end Short

end Text

def FailsWith (answer : Answer) (code : String) : Prop :=
  answer.ok = false ∧ answer.errorCode = some code.toList

/-- The ways in which a text is answered, each with what it says about the text. -/
inductive Outcome (settings : Settings) (raw : Text) : Answer → Prop
  | tooLong : settings.inputLimit < raw.length →
      Outcome settings raw {
        ok := false
        error := some (Fault.inputTooLong settings.inputLimit).message
        errorCode := some "TOO_LONG".toList }
  | nothing : raw.length ≤ settings.inputLimit → raw.any Char.isDigit = false →
      Outcome settings raw { ok := true }
  | unbalanced : raw.length ≤ settings.inputLimit → raw.any Char.isDigit = true →
      ¬Text.Balanced 0 raw →
      Expression.evaluate (arithmetic (tokensOf raw)) = .error .mismatchedParentheses →
      Outcome settings raw {
        ok := false
        expression := some (arithmetic (tokensOf raw))
        error := some Fault.mismatchedParentheses.message
        errorCode := some "MISMATCHED_PARENTHESES".toList }
  | malformed {fault : Fault} : raw.length ≤ settings.inputLimit → raw.any Char.isDigit = true →
      Text.Balanced 0 raw → Expression.evaluate (arithmetic (tokensOf raw)) = .error fault →
      Outcome settings raw {
        ok := false
        expression := some (arithmetic (tokensOf raw))
        error := some fault.message
        errorCode := some "MALFORMED_EXPRESSION".toList }
  | notFinite {value : Binary64} : raw.length ≤ settings.inputLimit →
      raw.any Char.isDigit = true → Text.Balanced 0 raw →
      Expression.evaluate (arithmetic (tokensOf raw)) = .ok value → value.isFinite = false →
      Outcome settings raw {
        ok := false
        expression := some (arithmetic (tokensOf raw))
        error := some (Fault.notFinite value).message
        errorCode := some "NON_FINITE_RESULT".toList }
  | value {value : Binary64} {digits : Text} : raw.length ≤ settings.inputLimit →
      raw.any Char.isDigit = true → Text.Balanced 0 raw →
      Expression.evaluate (arithmetic (tokensOf raw)) = .ok value → value.isFinite = true →
      Decimal.fixed value settings.places = .ok digits →
      Outcome settings raw {
        ok := true
        result := some (Decimal.withUnit digits (findUnit (tokensOf raw)))
        value := some value
        expression := some (arithmetic (tokensOf raw))
        unit := findUnit (tokensOf raw) }

section Outcome

variable {settings : Settings} {raw : Text} {answer : Answer}

theorem balanced_of_value (figured : raw.any Char.isDigit = true) {value : Binary64}
    (run : Expression.evaluate (arithmetic (tokensOf raw)) = .ok value) : Text.Balanced 0 raw := by
  by_contra unbalanced
  rw [Extraction.evaluate_of_unbalanced figured unbalanced] at run
  contradiction

theorem outcome_of_failure (short : (raw.length : Int) ≤ settings.inputLimit)
    (figured : raw.any Char.isDigit = true) {fault : Fault}
    (failed : Expression.evaluate (arithmetic (tokensOf raw)) = .error fault) :
    ∃ answer, ofText settings raw = .ok answer ∧ Outcome settings raw answer := by
  rw [of_text_of_failure short figured failed]
  by_cases balanced : Text.Balanced 0 raw
  · rcases Extraction.evaluate_of_balanced figured balanced with ⟨value, run⟩ | ⟨other, run, known⟩
    · rw [run] at failed
      contradiction
    · rw [run] at failed
      cases failed
      rw [of_fault_of_code (code_of_category known (by decide))]
      exact ⟨_, rfl, .malformed short figured balanced run⟩
  · have run := Extraction.evaluate_of_unbalanced figured balanced
    rw [run] at failed
    cases failed
    exact ⟨_, rfl, .unbalanced short figured balanced run⟩

theorem outcome_of_value (short : (raw.length : Int) ≤ settings.inputLimit)
    (figured : raw.any Char.isDigit = true) {value : Binary64}
    (run : Expression.evaluate (arithmetic (tokensOf raw)) = .ok value) :
    (∃ answer, ofText settings raw = .ok answer ∧ Outcome settings raw answer) ∨
      ∃ fault, value.isFinite = true ∧ Decimal.fixed value settings.places = .error fault ∧
        ofText settings raw = .error fault := by
  have balanced := balanced_of_value figured run
  cases finite : value.isFinite with
  | false =>
      have unwritten := Decimal.fixed_of_not_finite finite settings.places
      rw [of_text_of_unwritten short figured run unwritten]
      exact .inl ⟨_, rfl, .notFinite short figured balanced run finite⟩
  | true =>
      cases written : Decimal.fixed value settings.places with
      | error fault =>
          rw [of_text_of_unwritten short figured run written, ofFault,
            Decimal.code_of_fixed finite written]
          exact .inr ⟨fault, rfl, rfl, rfl⟩
      | ok digits =>
          rw [of_text_of_written short figured run written]
          exact .inl ⟨_, rfl, .value short figured balanced run finite written⟩

/-- A text is answered in one of the six ways, unless its value is finite and cannot be written out.
-/
theorem outcome_or_unwritten (settings : Settings) (raw : Text) :
    (∃ answer, ofText settings raw = .ok answer ∧ Outcome settings raw answer) ∨
      (raw.length : Int) ≤ settings.inputLimit ∧ raw.any Char.isDigit = true ∧
        ∃ value fault, Expression.evaluate (arithmetic (tokensOf raw)) = .ok value ∧
          value.isFinite = true ∧ Decimal.fixed value settings.places = .error fault ∧
          ofText settings raw = .error fault := by
  rcases lt_or_ge settings.inputLimit (raw.length : Int) with long | short
  · exact .inl ⟨_, of_text_of_long long, .tooLong long⟩
  · cases figured : raw.any Char.isDigit with
    | false => exact .inl ⟨_, of_text_of_no_digit short figured, .nothing short figured⟩
    | true =>
        cases run : Expression.evaluate (arithmetic (tokensOf raw)) with
        | error fault => exact .inl (outcome_of_failure short figured run)
        | ok value =>
            rcases outcome_of_value short figured run with answered | ⟨fault, unwritten⟩
            · exact .inl answered
            · exact .inr ⟨short, rfl, value, fault, rfl, unwritten⟩

/-- Every answer is one of the six. -/
theorem outcome_of_text (answered : ofText settings raw = .ok answer) :
    Outcome settings raw answer := by
  rcases outcome_or_unwritten settings raw with ⟨other, same, outcome⟩ | ⟨_, _, refused⟩
  · rw [same] at answered
    cases answered
    exact outcome
  · obtain ⟨_, _, _, _, _, same⟩ := refused
    rw [same] at answered
    contradiction

variable (outcome : Outcome settings raw answer)

include outcome

theorem Outcome.too_long_iff :
    (answer.FailsWith "TOO_LONG" ↔ settings.inputLimit < raw.length) ∧
      (answer.FailsWith "TOO_LONG" → answer.expression = none) := by
  cases outcome <;> simp [FailsWith, *]

theorem Outcome.nothing_iff (short : (raw.length : Int) ≤ settings.inputLimit) :
    answer = { ok := true } ↔ raw.any Char.isDigit = false := by
  cases outcome with
  | tooLong long => omega
  | nothing _ plain => exact iff_of_true rfl plain
  | _ => simp [*]

theorem Outcome.unbalanced_iff (short : (raw.length : Int) ≤ settings.inputLimit)
    (figured : raw.any Char.isDigit = true) :
    answer.FailsWith "MISMATCHED_PARENTHESES" ↔ ¬Text.Balanced 0 raw := by
  cases outcome with
  | tooLong long => omega
  | nothing _ plain =>
      rw [plain] at figured
      contradiction
  | unbalanced _ _ unbalanced => simp [FailsWith, unbalanced]
  | _ => simp [FailsWith, *]

/-- With balanced parentheses the operands and the value decide. -/
theorem Outcome.of_balanced (short : (raw.length : Int) ≤ settings.inputLimit)
    (figured : raw.any Char.isDigit = true) (balanced : Text.Balanced 0 raw) :
    ∃ expression, answer.expression = some expression ∧
      (answer.FailsWith "MALFORMED_EXPRESSION" ∨ answer.FailsWith "NON_FINITE_RESULT" ∨
        answer.ok = true ∧ ∃ value digits, answer.value = some value ∧
          Expression.evaluate expression = .ok value ∧ value.isFinite = true ∧
          Decimal.fixed value settings.places = .ok digits ∧
          answer.result = some (Decimal.withUnit digits answer.unit)) ∧
      (answer.FailsWith "NON_FINITE_RESULT" ↔
        ∃ value, Expression.evaluate expression = .ok value ∧ value.isFinite = false) := by
  cases outcome with
  | tooLong long => omega
  | nothing _ plain =>
      rw [plain] at figured
      contradiction
  | unbalanced _ _ unbalanced => exact absurd balanced unbalanced
  | malformed _ _ _ failed =>
      refine ⟨_, rfl, .inl ⟨rfl, rfl⟩, ?_⟩
      simp [FailsWith, failed]
  | notFinite _ _ _ run other =>
      refine ⟨_, rfl, .inr (.inl ⟨rfl, rfl⟩), ?_⟩
      simp [FailsWith, run, other]
  | value _ _ _ run finite written =>
      refine ⟨_, rfl, .inr (.inr ⟨rfl, _, _, rfl, run, finite, written, rfl⟩), ?_⟩
      simp [FailsWith, run, finite]

/-- A failure has nothing but its wording and code, and its code is none of the general ones; all
else has neither. -/
theorem Outcome.shape :
    answer.errorCode ≠ some "INVALID_CHARACTER".toList ∧
      answer.errorCode ≠ some "PARSE_ERROR".toList ∧
      (answer.ok = true → answer.error = none ∧ answer.errorCode = none) ∧
      (answer.ok = false → answer.result = none ∧ answer.value = none ∧ answer.unit = none) := by
  cases outcome <;> simp

end Outcome

/-- The text decides its answer in a fixed order: its length, its digits and its parentheses come
before its operands and its value. -/
theorem answered_in_order {settings : Settings} {raw : Text} {answer : Answer}
    (answered : ofText settings raw = .ok answer) :
    ((answer.FailsWith "TOO_LONG" ↔ settings.inputLimit < raw.length) ∧
      (answer.FailsWith "TOO_LONG" → answer.expression = none)) ∧
    ((raw.length : Int) ≤ settings.inputLimit →
      (answer = { ok := true } ↔ raw.any Char.isDigit = false) ∧
      (raw.any Char.isDigit = true →
        (answer.FailsWith "MISMATCHED_PARENTHESES" ↔ ¬Text.Balanced 0 raw) ∧
        (Text.Balanced 0 raw → ∃ expression, answer.expression = some expression ∧
          (answer.FailsWith "MALFORMED_EXPRESSION" ∨ answer.FailsWith "NON_FINITE_RESULT" ∨
            answer.ok = true ∧ ∃ value digits, answer.value = some value ∧
              Expression.evaluate expression = .ok value ∧ value.isFinite = true ∧
              Decimal.fixed value settings.places = .ok digits ∧
              answer.result = some (Decimal.withUnit digits answer.unit)) ∧
          (answer.FailsWith "NON_FINITE_RESULT" ↔
            ∃ value, Expression.evaluate expression = .ok value ∧ value.isFinite = false)))) ∧
    answer.errorCode ≠ some "INVALID_CHARACTER".toList ∧
    answer.errorCode ≠ some "PARSE_ERROR".toList ∧
    (answer.ok = true → answer.error = none ∧ answer.errorCode = none) ∧
    (answer.ok = false → answer.result = none ∧ answer.value = none ∧ answer.unit = none) := by
  have outcome := outcome_of_text answered
  refine ⟨outcome.too_long_iff, fun short => ⟨outcome.nothing_iff short, fun figured => ?_⟩,
    outcome.shape⟩
  exact ⟨outcome.unbalanced_iff short figured, outcome.of_balanced short figured⟩

/-- A parenthesis without its partner is noticed before the division by zero in front of it. -/
theorem lone_parenthesis_answered_in_order :
    ∃ answer, ofText {} "(1/0))".toList = .ok answer ∧
      answer.FailsWith "MISMATCHED_PARENTHESES" := by
  have answered : ofText {} "(1/0))".toList = .ok {
      ok := false
      expression := some "( 1 / 0 ) )".toList
      error := some "Mismatched parentheses".toList
      errorCode := some "MISMATCHED_PARENTHESES".toList } := by
    decide +kernel
  have decided := (answered_in_order answered).2.1 (by decide)
  refine ⟨_, answered, (decided.2 (by decide)).1.2 ?_⟩
  rintro ⟨_, total⟩
  revert total
  decide

end Reckoner.Answer
