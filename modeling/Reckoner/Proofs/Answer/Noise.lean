import Reckoner.Proofs.Answer.Outcome
import Reckoner.Proofs.Extraction.Noise

/-!
# Answers to texts with the same arithmetic

The unit of a text has no part in what its arithmetic comes to. So characters beside the arithmetic
can be replaced by spaces, and the text is answered as before, except that its unit may be lost.
-/

namespace Reckoner.Answer

open Extraction (IsNoiseAt spacedAt)

set_option autoImplicit false

/-- Both texts are refused for the same fault, or they are answered alike but for the unit: their
results are the same digits, each with the unit of its own text. -/
inductive AgreeBesidesUnit : Except Fault Answer → Except Fault Answer → Prop
  | refused (fault : Fault) : AgreeBesidesUnit (.error fault) (.error fault)
  | answered {answer other : Answer} (digits : Option Text) : other.ok = answer.ok →
      other.value = answer.value → other.expression = answer.expression →
      other.error = answer.error → other.errorCode = answer.errorCode →
      answer.result = digits.map (Decimal.withUnit · answer.unit) →
      other.result = digits.map (Decimal.withUnit · other.unit) →
      AgreeBesidesUnit (.ok answer) (.ok other)

theorem agree_of_fault (expression : Option Text) (fault : Fault) :
    AgreeBesidesUnit (ofFault expression fault) (ofFault expression fault) := by
  unfold ofFault
  split
  · exact .answered none rfl rfl rfl rfl rfl rfl rfl
  · exact .refused fault

theorem agree_of_extraction (settings : Settings) (expression : Text) (unit other : Option Text) :
    AgreeBesidesUnit (ofExtraction settings ⟨expression, unit⟩)
      (ofExtraction settings ⟨expression, other⟩) := by
  unfold ofExtraction Extraction.isEmpty
  dsimp only
  split
  · exact .answered none rfl rfl rfl rfl rfl rfl rfl
  · unfold computed
    simp only [bind, Except.bind]
    cases Expression.evaluate expression with
    | error fault => exact agree_of_fault (some expression) fault
    | ok value =>
        dsimp only
        cases Decimal.fixed value settings.places with
        | error fault => exact agree_of_fault (some expression) fault
        | ok digits => exact .answered (some digits) rfl rfl rfl rfl rfl rfl rfl

/-- Spaces in the places of any characters beside the arithmetic leave the expression of a text as
it is, and with it all of the answer but the unit. -/
theorem noise_leaves_answer {settings : Settings} {raw : Text} {chosen : Nat → Bool}
    (short : (raw.length : Int) ≤ settings.inputLimit)
    (noise : ∀ position, chosen position = true → IsNoiseAt raw position) :
    (∃ extraction other, Extraction.ofText settings.inputLimit raw = .ok extraction ∧
      Extraction.ofText settings.inputLimit (spacedAt chosen raw) = .ok other ∧
      other.expression = extraction.expression) ∧
    AgreeBesidesUnit (ofText settings raw) (ofText settings (spacedAt chosen raw)) := by
  have same := Extraction.arithmetic_spaced_at noise
  have shortAfter : ((spacedAt chosen raw).length : Int) ≤ settings.inputLimit := by
    rwa [Extraction.length_spaced_at]
  constructor
  · exact ⟨_, _, Extraction.of_text_of_short short, Extraction.of_text_of_short shortAfter, same⟩
  · rw [of_text_of_short short, of_text_of_short shortAfter, same]
    exact agree_of_extraction settings _ _ _

/-- Without the end of its word, its stray characters and the word behind the operator, a text has
another unit and the same arithmetic. -/
theorem rest_of_word_is_noise :
    (Extraction.ofText 10000 "2 kgX3%%+a_1".toList).map Extraction.expression =
        .ok "2 * 3% + 1".toList ∧
      (Extraction.ofText 10000 "2 k X3% +  1".toList).map Extraction.expression =
        .ok "2 * 3% + 1".toList ∧
      AgreeBesidesUnit (ofText {} "2 kgX3%%+a_1".toList) (ofText {} "2 k X3% +  1".toList) := by
  have spaced : spacedAt [3, 7, 9, 10].contains "2 kgX3%%+a_1".toList =
      "2 k X3% +  1".toList := by decide
  have beside : ∀ position ∈ [3, 7, 9, 10], IsNoiseAt "2 kgX3%%+a_1".toList position := by
    decide +kernel
  have noise : ∀ position, [3, 7, 9, 10].contains position = true →
      IsNoiseAt "2 kgX3%%+a_1".toList position := by
    intro position isChosen
    exact beside position (List.contains_iff_mem.1 isChosen)
  have first : (Extraction.ofText 10000 "2 kgX3%%+a_1".toList).map Extraction.expression =
      .ok "2 * 3% + 1".toList := by
    decide +kernel
  obtain ⟨⟨_, _, extracted, again, same⟩, agree⟩ :=
    @noise_leaves_answer {} "2 kgX3%%+a_1".toList _ (by decide) noise
  rw [spaced] at again agree
  refine ⟨first, ?_, agree⟩
  rw [← first]
  exact ((congrArg (Except.map Extraction.expression) again).trans (congrArg Except.ok same)).trans
    (congrArg (Except.map Extraction.expression) extracted).symm

end Reckoner.Answer
