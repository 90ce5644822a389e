import Reckoner.Proofs.Extraction.Contents

/-!
# Evaluating the arithmetic of a text

The arithmetic of a text that has a digit can always be cut into tokens. What it comes to is then a
matter of the text's parentheses and, if these are balanced, of its operands: no character and no
token of the text is ever in the way.
-/

namespace Reckoner.Extraction

open Expression (Lexes parenthesesMatch)

set_option autoImplicit false

def arithmeticTokens (raw : Text) : List Token :=
  ((tokensOf raw).filter isArithmetic).map inNotation

section Figured

variable {raw : Text} (figured : raw.any Char.isDigit = true)

include figured

theorem lexes_arithmetic : Lexes (arithmetic (tokensOf raw)) (arithmeticTokens raw) := by
  rw [arithmetic, if_pos (by rw [any_is_operand_tokens_of, figured])]
  apply lexes_joined
  · intro token member
    exact found_of_mem_tokens_of (List.mem_filter.1 member).1
  · intro token member
    exact (List.mem_filter.1 member).2

theorem read_arithmetic :
    ∃ text, Expression.normal (arithmetic (tokensOf raw)) = .ok text ∧
      Expression.tokens text = .ok (arithmeticTokens raw) :=
  ⟨_, Expression.tokens_normal (characters_of_lexes (lexes_arithmetic figured))⟩

theorem arithmetic_ne_nil : arithmetic (tokensOf raw) ≠ [] := by
  intro empty
  have lexes := lexes_arithmetic figured
  rw [empty] at lexes
  have none : arithmeticTokens raw = [] := lexes.unique .done
  have operand : (tokensOf raw).any Token.isOperand = true := by
    rw [any_is_operand_tokens_of, figured]
  obtain ⟨token, member, isOperand⟩ := List.any_eq_true.1 operand
  rw [arithmeticTokens, List.map_eq_nil_iff, List.filter_eq_nil_iff] at none
  exact none token member (is_arithmetic_of_is_operand isOperand)

end Figured

theorem in_notation_kind (token : Token) : (inNotation token).kind = token.kind := rfl

/-- Words, blanks and stray characters do not count for parentheses. -/
theorem parentheses_match_arithmetic (tokens : List Token) (depth : Nat) :
    parenthesesMatch depth ((tokens.filter isArithmetic).map inNotation) =
      parenthesesMatch depth tokens := by
  induction tokens generalizing depth with
  | nil => rfl
  | cons token rest ih =>
      cases arithmetic : isArithmetic token with
      | true =>
          rw [List.filter_cons_of_pos arithmetic, List.map_cons]
          exact Expression.parentheses_match_congr (in_notation_kind token) ih depth
      | false =>
          rw [List.filter_cons_of_neg (by simp [arithmetic]), ih,
            Expression.parentheses_match_skip]
          · intro opening
            simp [isArithmetic, opening] at arithmetic
          · intro closing
            simp [isArithmetic, closing] at arithmetic

theorem parentheses_match_arithmetic_tokens (raw : Text) :
    parenthesesMatch 0 (arithmeticTokens raw) = true ↔ Text.Balanced 0 raw := by
  rw [arithmeticTokens, parentheses_match_arithmetic, parentheses_match_tokens_of]

section Figured

variable {raw : Text} (figured : raw.any Char.isDigit = true)

include figured

theorem evaluate_of_unbalanced (unbalanced : ¬Text.Balanced 0 raw) :
    Expression.evaluate (arithmetic (tokensOf raw)) = .error .mismatchedParentheses := by
  obtain ⟨text, normalized, read⟩ := read_arithmetic figured
  apply Expression.evaluate_of_mismatch normalized read
  rw [← parentheses_match_arithmetic_tokens] at unbalanced
  simpa using unbalanced

theorem evaluate_of_balanced (balanced : Text.Balanced 0 raw) :
    (∃ value, Expression.evaluate (arithmetic (tokensOf raw)) = .ok value) ∨
      ∃ fault, Expression.evaluate (arithmetic (tokensOf raw)) = .error fault ∧
        fault.category? = some .malformedExpression := by
  obtain ⟨text, normalized, read⟩ := read_arithmetic figured
  apply Expression.evaluate_of_match normalized read
  exact (parentheses_match_arithmetic_tokens raw).2 balanced

/-- Whatever is wrong with the arithmetic of a text is answered with a code. -/
theorem category_of_evaluate {fault : Fault}
    (failed : Expression.evaluate (arithmetic (tokensOf raw)) = .error fault) :
    fault.category? = some .malformedExpression ∨
      fault.category? = some .mismatchedParentheses := by
  by_cases balanced : Text.Balanced 0 raw
  · rcases evaluate_of_balanced figured balanced with ⟨value, run⟩ | ⟨other, run, category⟩
    · rw [run] at failed
      contradiction
    · rw [run] at failed
      cases failed
      exact .inl category
  · rw [evaluate_of_unbalanced figured balanced] at failed
    cases failed
    exact .inr rfl

end Figured

end Reckoner.Extraction
