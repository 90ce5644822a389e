import Reckoner.Answer
import Reckoner.Proofs.Decimal.Fixed
import Reckoner.Proofs.Extraction.Result

/-!
# Answering an answer

A result is itself a text to be answered, and its answer is the same result: the numeral is found
again under its sign and before its unit, it is read as a number that is nearest to it, and that
number is rounded to the same last places.
-/

namespace Reckoner

open Extraction (IsUnit signedArithmetic signedLeaf signedText)

set_option autoImplicit false

namespace Decimal

/-- A number written out is a literal under a sign whose value is written out the same way. -/
theorem fixed_reread {value : Binary64} {places : Int} {text : Text} (behind : 0 ≤ places)
    (written : fixed value places = .ok text) :
    ∃ minus numeral, numeral.WellFormed ∧ text = signedText minus numeral ∧
      fixed (signedLeaf minus numeral).value places = .ok text := by
  obtain ⟨negative, rank, rfl, rfl, again⟩ := fixed_eq_ok written
  generalize counted : lastPlaceCount (Binary64.grainsOfRank rank) places = rounded at *
  obtain ⟨other, value, count⟩ :=
    value_literal ((last_place_count_of_nonneg _ behind).symm.trans counted)
  rw [← last_place_count_of_nonneg _ behind] at count
  refine ⟨showsMinus negative rounded, literal rounded places.toNat, well_formed_literal _ _,
    fixed_text_eq negative rounded behind, ?_⟩
  have signed : (signedLeaf (showsMinus negative rounded) (literal rounded places.toNat)).value =
      .finite (showsMinus negative rounded) other := by
    cases showsMinus negative rounded with
    | false => exact value
    | true =>
        change -(literal rounded places.toNat).value = _
        rw [value]
        rfl
  rw [signed, again _ other count, fixed_text_shows_minus negative rounded behind]

end Decimal

namespace Answer

theorem result_of_fault {expression : Option Text} {fault : Fault} {answer : Answer}
    (answered : ofFault expression fault = .ok answer) : answer.result = none := by
  unfold ofFault at answered
  split at answered
  · cases answered
    rfl
  · contradiction

/-- An extraction has a text exactly if its arithmetic has a value that can be written out. -/
theorem computed_eq_ok_iff {settings : Settings} {extraction : Extraction} {value : Binary64}
    {text : Text} :
    computed settings extraction = .ok (value, text) ↔
      Expression.evaluate extraction.expression = .ok value ∧
        ∃ digits, Decimal.fixed value settings.places = .ok digits ∧
          text = Decimal.withUnit digits extraction.unit := by
  unfold computed
  simp only [bind, Except.bind]
  constructor
  · intro calculated
    cases evaluated : Expression.evaluate extraction.expression with
    | error fault =>
        rw [evaluated] at calculated
        cases calculated
    | ok number =>
        rw [evaluated] at calculated
        dsimp only at calculated
        cases written : Decimal.fixed number settings.places with
        | error fault =>
            rw [written] at calculated
            cases calculated
        | ok digits =>
            rw [written] at calculated
            cases calculated
            exact ⟨rfl, digits, written, rfl⟩
  · rintro ⟨evaluated, digits, written, rfl⟩
    rw [evaluated]
    dsimp only
    rw [written]
    rfl

theorem of_result_extraction {settings : Settings} {extraction : Extraction} {result : Text}
    {answer : Answer} (answered : ofExtraction settings extraction = .ok answer)
    (resulted : answer.result = some result) :
    ∃ value digits, Decimal.fixed value settings.places = .ok digits ∧
      result = Decimal.withUnit digits extraction.unit ∧ answer.unit = extraction.unit := by
  unfold ofExtraction at answered
  split at answered
  · cases answered
    contradiction
  · split at answered
    · rename_i value text calculated
      cases answered
      cases resulted
      obtain ⟨_, digits, written, shown⟩ := computed_eq_ok_iff.1 calculated
      exact ⟨value, digits, written, shown, rfl⟩
    · rw [result_of_fault answered] at resulted
      contradiction

theorem of_result {settings : Settings} {raw result : Text} {answer : Answer}
    (answered : ofText settings raw = .ok answer) (resulted : answer.result = some result) :
    ∃ value digits, Decimal.fixed value settings.places = .ok digits ∧
      result = Decimal.withUnit digits answer.unit ∧ IsUnit answer.unit := by
  unfold ofText Extraction.ofText Extraction.scan at answered
  by_cases long : settings.inputLimit < raw.length
  · rw [if_pos long] at answered
    rw [result_of_fault answered] at resulted
    contradiction
  · rw [if_neg long] at answered
    obtain ⟨value, digits, written, shown, unit⟩ := of_result_extraction answered resulted
    rw [unit]
    exact ⟨value, digits, written, shown, Extraction.is_unit_find_unit raw⟩

/-- What is answered to a literal under a sign and with a unit, if its value can be written out. -/
theorem of_text_signed {settings : Settings} {numeral : Numeral} {unit : Option Text} {minus : Bool}
    {digits : Text} (written : numeral.WellFormed) (word : IsUnit unit)
    (shown : Decimal.fixed (signedLeaf minus numeral).value settings.places = .ok digits)
    (short : ((Decimal.withUnit (signedText minus numeral) unit).length : Int) ≤
      settings.inputLimit) :
    ofText settings (Decimal.withUnit (signedText minus numeral) unit) = .ok {
      ok := true
      result := some (Decimal.withUnit digits unit)
      value := some (signedLeaf minus numeral).value
      expression := some (signedArithmetic minus numeral)
      unit := unit } := by
  have extracted : Extraction.ofText settings.inputLimit
      (Decimal.withUnit (signedText minus numeral) unit) =
        .ok ⟨signedArithmetic minus numeral, unit⟩ := by
    rw [Extraction.ofText, Extraction.scan, if_neg (by omega),
      Extraction.tokens_of_result written word]
    change Except.ok (Extraction.mk _ _) = _
    rw [Extraction.arithmetic_result written, Extraction.find_unit_result]
  have nonempty : (signedArithmetic minus numeral).isEmpty = false := by
    obtain ⟨c, rest, same, _⟩ := Expression.text_eq_cons written
    rw [signedArithmetic, same]
    simp
  have calculated : computed settings ⟨signedArithmetic minus numeral, unit⟩ =
      .ok ((signedLeaf minus numeral).value, Decimal.withUnit digits unit) :=
    computed_eq_ok_iff.2 ⟨Extraction.evaluate_result written minus, digits, shown, rfl⟩
  unfold ofText
  rw [extracted]
  unfold ofExtraction Extraction.isEmpty
  simp only [nonempty, calculated, Bool.false_eq_true, if_false]

/-- A result that is short enough is answered with itself and its unit. -/
theorem result_answers_itself {settings : Settings} {raw result : Text} {answer : Answer}
    (behind : 0 ≤ settings.places) (answered : ofText settings raw = .ok answer)
    (resulted : answer.result = some result)
    (short : (result.length : Int) ≤ settings.inputLimit) :
    ∃ again, ofText settings result = .ok again ∧ again.ok = true ∧
      again.result = some result ∧ again.unit = answer.unit := by
  obtain ⟨value, digits, written, rfl, word⟩ := of_result answered resulted
  obtain ⟨minus, numeral, wellFormed, rfl, reread⟩ := Decimal.fixed_reread behind written
  have again := of_text_signed wellFormed word reread short
  exact ⟨_, again, rfl, rfl, rfl⟩

/-- A third is rounded, and answering the rounded number with its sign and unit changes nothing. -/
theorem negative_third_answers_itself :
    ∃ again, ofText {} "-0.33333333 kg".toList = .ok again ∧ again.ok = true ∧
      again.result = some "-0.33333333 kg".toList ∧ again.unit = some "kg".toList := by
  have answered : ofText {} "2 kg / 3 - 1".toList = .ok {
      ok := true
      result := some "-0.33333333 kg".toList
      value := some (Binary64.ofDecimal 2 0 / Binary64.ofDecimal 3 0 - Binary64.ofDecimal 1 0)
      expression := some "2 / 3 - 1".toList
      unit := some "kg".toList } := by
    decide +kernel
  exact result_answers_itself (by decide) answered rfl (by decide)

end Answer

end Reckoner
