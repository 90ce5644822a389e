import Reckoner.Proofs.Expression.Legible
import Reckoner.Proofs.Extraction.Strict

/-!
# How an evaluation fails

An expression fails for its characters, for its parentheses or for its form, in this order, and for
nothing else. The first two can be seen in the text without cutting it into tokens.
-/

namespace Reckoner.Expression

set_option autoImplicit false

def FailsAs (source : Text) (category : Category) : Prop :=
  ∃ fault, evaluate source = .error fault ∧ fault.category? = some category

theorem FailsAs.unique {source : Text} {category other : Category}
    (fails : FailsAs source category) (again : FailsAs source other) : category = other := by
  obtain ⟨fault, failed, known⟩ := fails
  obtain ⟨_, same, otherKnown⟩ := again
  rw [failed] at same
  cases same
  rw [known] at otherKnown
  exact Option.some.inj otherKnown

theorem not_fails_as_of_value {source : Text} {value : Binary64} (run : evaluate source = .ok value)
    (category : Category) : ¬FailsAs source category := by
  rintro ⟨fault, failed, _⟩
  rw [run] at failed
  contradiction

/-- Every character is in its place if and only if the text can be cut into tokens. -/
theorem legible_iff (source : Text) :
    Legible [] source ↔ ∃ text found, normal source = .ok text ∧ tokens text = .ok found := by
  have noTimes : ∀ c ∈ source.map withoutTimesSign, c ≠ Text.timesSign := by
    intro c member
    obtain ⟨typed, _, rfl⟩ := List.mem_map.1 member
    unfold withoutTimesSign
    split
    · decide
    · assumption
  rw [← legible_map, List.map_nil, legible_iff_tokens_from (boundary_nil _) noTimes 0]
  constructor
  · intro cut
    obtain ⟨found, read⟩ := cut
    exact ⟨_, found, tokens_normal (lexes_of_tokens_from read)⟩
  · intro both
    obtain ⟨text, found, normalized, read⟩ := both
    exact ⟨found, tokens_from_of_lexes (lexes_of_normal normalized read) 0⟩

theorem category_of_tokens_from {position : Nat} {source : Text} {fault : Fault}
    (failed : tokensFrom position source = .error fault) :
    fault.category? = some .invalidCharacter := by
  have behind : ∀ {first : Token} {outcome : Except Fault (List Token)},
      outcome.map (first :: ·) = .error fault → outcome = .error fault := by
    intro first outcome
    cases outcome <;> simp [Except.map]
  fun_induction tokensFrom position source with
  | case1 => contradiction
  | case2 _ _ _ _ ih => exact ih failed
  | case3 _ _ _ _ _ _ _ ih => exact ih (behind failed)
  | case4 _ _ _ _ _ _ _ ih => exact ih (behind failed)
  | case5 =>
      cases failed
      rfl

theorem category_of_normal {source : Text} {fault : Fault} (failed : normal source = .error fault) :
    fault.category? = some .invalidCharacter := by
  unfold normal at failed
  split at failed
  · cases failed
    rfl
  · contradiction

theorem fails_as_of_not_legible {source : Text} (illegible : ¬Legible [] source) :
    FailsAs source .invalidCharacter := by
  rw [legible_iff] at illegible
  unfold FailsAs evaluate postfixOf
  cases normalized : normal source with
  | error fault => exact ⟨fault, rfl, category_of_normal normalized⟩
  | ok text =>
      cases read : tokens text with
      | error fault =>
          refine ⟨fault, ?_, category_of_tokens_from read⟩
          simp only [bind, Except.bind, read]
      | ok found => exact absurd ⟨text, found, normalized, read⟩ illegible

section Cut

variable {source text : Text} {found : List Token}

/-- The parentheses among the tokens are those of the text. -/
theorem parentheses_match_iff_balanced (normalized : normal source = .ok text)
    (read : tokens text = .ok found) :
    parenthesesMatch 0 found = true ↔ Text.Balanced 0 source := by
  have consists := Extraction.consists_of_lexes (lexes_of_normal normalized read)
  rw [← Extraction.parentheses_match_arithmetic_tokens,
    show Extraction.arithmeticTokens source = found from consists.1]

end Cut

section Legible

variable {source : Text} (legible : Legible [] source)

include legible

theorem fails_as_of_unbalanced (unbalanced : ¬Text.Balanced 0 source) :
    FailsAs source .mismatchedParentheses := by
  obtain ⟨text, found, normalized, read⟩ := (legible_iff source).1 legible
  rw [← parentheses_match_iff_balanced normalized read] at unbalanced
  exact ⟨_, evaluate_of_mismatch normalized read (by simpa using unbalanced), rfl⟩

theorem value_or_fails_as_of_balanced (balanced : Text.Balanced 0 source) :
    (∃ value, evaluate source = .ok value) ∨ FailsAs source .malformedExpression := by
  obtain ⟨text, found, normalized, read⟩ := (legible_iff source).1 legible
  rw [← parentheses_match_iff_balanced normalized read] at balanced
  exact evaluate_of_match normalized read balanced

theorem not_fails_as_invalid_character : ¬FailsAs source .invalidCharacter := by
  intro fails
  by_cases balanced : Text.Balanced 0 source
  · rcases value_or_fails_as_of_balanced legible balanced with ⟨value, run⟩ | malformed
    · exact not_fails_as_of_value run _ fails
    · exact absurd (fails.unique malformed) (by decide)
  · exact absurd (fails.unique (fails_as_of_unbalanced legible balanced)) (by decide)

theorem fails_as_mismatched_parentheses_iff :
    FailsAs source .mismatchedParentheses ↔ ¬Text.Balanced 0 source := by
  constructor
  · intro fails balanced
    rcases value_or_fails_as_of_balanced legible balanced with ⟨value, run⟩ | malformed
    · exact not_fails_as_of_value run _ fails
    · exact absurd (fails.unique malformed) (by decide)
  · exact fails_as_of_unbalanced legible

end Legible

theorem value_or_fails_as (source : Text) :
    (∃ value, evaluate source = .ok value) ∨
      ∃ category ∈ [.invalidCharacter, .mismatchedParentheses, .malformedExpression],
        FailsAs source category := by
  by_cases legible : Legible [] source
  · by_cases balanced : Text.Balanced 0 source
    · rcases value_or_fails_as_of_balanced legible balanced with valued | malformed
      · exact .inl valued
      · exact .inr ⟨_, by simp, malformed⟩
    · exact .inr ⟨_, by simp, fails_as_of_unbalanced legible balanced⟩
  · exact .inr ⟨_, by simp, fails_as_of_not_legible legible⟩

/-- A text with a character out of its place fails for it, any other text with unbalanced
parentheses for these, and of the rest each has a value or is malformed. -/
theorem text_decides_failure (source : Text) :
    (∀ fault, evaluate source = .error fault →
      ∃ category ∈ [.invalidCharacter, .mismatchedParentheses, .malformedExpression],
        fault.category? = some category) ∧
    (FailsAs source .invalidCharacter ↔ ¬Legible [] source) ∧
    (Legible [] source →
      (FailsAs source .mismatchedParentheses ↔ ¬Text.Balanced 0 source) ∧
      (Text.Balanced 0 source →
        (∃ value, evaluate source = .ok value) ∨ FailsAs source .malformedExpression)) := by
  refine ⟨?_, ⟨?_, fails_as_of_not_legible⟩, ?_⟩
  · intro fault failed
    rcases value_or_fails_as source with ⟨value, run⟩ | ⟨category, listed, other, again, known⟩
    · rw [run] at failed
      contradiction
    · rw [again] at failed
      cases failed
      exact ⟨category, listed, known⟩
  · intro fails legible
    exact not_fails_as_invalid_character legible fails
  · intro legible
    exact ⟨fails_as_mismatched_parentheses_iff legible, value_or_fails_as_of_balanced legible⟩

/-- The second point is out of its place, and comes before the parenthesis that is not closed. -/
example : evaluate "(1.2.3".toList = .error (.unexpectedCharacter '.' 4) := by decide +kernel

end Reckoner.Expression
