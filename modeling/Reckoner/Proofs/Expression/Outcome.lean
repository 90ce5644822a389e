import Reckoner.Proofs.Expression.Acceptance

/-!
# What an evaluation comes to

Parentheses are looked at before anything else, and only the kinds of the tokens count for them. So
a text that can be cut fails for its parentheses exactly if they do not match. If they match, it has
a value or is malformed.
-/

namespace Reckoner.Expression

set_option autoImplicit false

theorem parentheses_match_congr {token other : Token} {rest others : List Token}
    (kind : token.kind = other.kind)
    (same : ∀ depth, parenthesesMatch depth rest = parenthesesMatch depth others) (depth : Nat) :
    parenthesesMatch depth (token :: rest) = parenthesesMatch depth (other :: others) := by
  unfold parenthesesMatch
  rw [kind]
  split <;> simp only [same]

theorem kind_marked (previous : Option Token) (token : Token) :
    (marked previous token).kind = token.kind := by
  unfold marked
  split
  · rename_i operator
    split
    · exact operator.1.symm
    · split
      · exact operator.1.symm
      · rfl
  · rfl

theorem parentheses_match_mark_signs_after (previous : Option Token) (tokens : List Token)
    (depth : Nat) :
    parenthesesMatch depth (markSignsAfter previous tokens) = parenthesesMatch depth tokens := by
  induction tokens generalizing previous depth with
  | nil => rfl
  | cons token rest ih => exact parentheses_match_congr (kind_marked previous token) (ih _) depth

section Cut

variable {source text : Text} {found : List Token}

theorem evaluate_of_mismatch (normalized : normal source = .ok text)
    (read : tokens text = .ok found) (unclosed : parenthesesMatch 0 found = false) :
    evaluate source = .error .mismatchedParentheses := by
  obtain ⟨terminals, same⟩ := mark_signs_terminals read
  have nonempty : found ≠ [] := by
    rintro rfl
    contradiction
  rw [← parentheses_match_mark_signs_after none, show markSignsAfter none found = _ from same]
    at unclosed
  rw [evaluate_of_tokens normalized read nonempty, same, to_postfix_of_mismatch unclosed]
  rfl

theorem evaluate_of_match (normalized : normal source = .ok text) (read : tokens text = .ok found)
    (closed : parenthesesMatch 0 found = true) :
    (∃ value, evaluate source = .ok value) ∨
      ∃ fault, evaluate source = .error fault ∧ fault.category? = some .malformedExpression := by
  by_cases empty : found = []
  · subst empty
    exact .inr ⟨.emptyExpression, evaluate_of_no_tokens normalized read, rfl⟩
  · obtain ⟨terminals, same⟩ := mark_signs_terminals read
    rw [← parentheses_match_mark_signs_after none, show markSignsAfter none found = _ from same]
      at closed
    obtain ⟨queue, ordered, calculable⟩ := to_postfix_of_match closed
    have run := evaluate_of_tokens normalized read empty
    rw [same, ordered] at run
    rcases value_of_postfix_cases queue calculable with ⟨tree, _, value⟩ | ⟨fault, failed, category⟩
    · exact .inl ⟨tree.value, run.trans value⟩
    · exact .inr ⟨fault, run.trans failed, category⟩

/-- Two texts that are cut into the same tokens come to the same. -/
theorem evaluate_eq_of_tokens {other otherText : Text} (normalized : normal source = .ok text)
    (read : tokens text = .ok found) (otherNormalized : normal other = .ok otherText)
    (otherRead : tokens otherText = .ok found) : evaluate source = evaluate other := by
  by_cases empty : found = []
  · subst empty
    rw [evaluate_of_no_tokens normalized read, evaluate_of_no_tokens otherNormalized otherRead]
  · rw [evaluate_of_tokens normalized read empty,
      evaluate_of_tokens otherNormalized otherRead empty]

end Cut

end Reckoner.Expression
