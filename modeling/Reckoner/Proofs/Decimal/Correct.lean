import Mathlib.Data.Nat.Digits.Lemmas
import Reckoner.Proofs.Binary64.Exact
import Reckoner.Proofs.Decimal.Canonical
import Reckoner.Proofs.Decimal.HalfAway
import Reckoner.Proofs.Decimal.Range

/-!
# What is written for a number

A finite number is rounded exactly, with no rounding in between, to a whole number of last places,
and that whole number of them is written as its canonical numeral.
-/

namespace Reckoner.Decimal

open Binary64 (grainsOfRank grainsPerOne rankLimit signedGrains)

set_option autoImplicit false

section Finite

variable (negative : Bool) (rank : Fin rankLimit) (places : Int)

theorem last_place_count_ratio (grains : Nat) :
    (grains / grainsPerOne * 10 ^ places : ℚ) =
      (grains * Nat.pow 10 places.toNat : Nat) /
        (grainsPerOne * Nat.pow 10 (-places).toNat : Nat) := by
  rw [ten_zpow, div_mul_div_comm, Nat.pow_eq, Nat.pow_eq]
  push_cast
  rfl

/-- The exact number of last places is rounded once. -/
theorem is_rounded_last_place_count :
    IsRounded (signedGrains negative rank / grainsPerOne * 10 ^ places)
      (signedCount negative (lastPlaceCount (grainsOfRank rank) places)) := by
  have positive : 0 < grainsPerOne * Nat.pow 10 (-places).toNat :=
    Nat.mul_pos Binary64.grains_per_one_pos (Nat.pow_pos (by decide))
  have rounded := is_rounded_round_half_up (grainsOfRank rank * Nat.pow 10 places.toNat) positive
  rw [← last_place_count_ratio] at rounded
  cases negative with
  | false => exact rounded
  | true =>
      have opposite := rounded.neg
      rw [← neg_mul, ← neg_div] at opposite
      have grains : (signedGrains true rank : ℚ) = -(grainsOfRank rank : ℚ) := by
        rw [signedGrains, if_pos rfl]
        push_cast
        rfl
      rw [grains]
      exact opposite

variable {places}

theorem fixed_finite (lowest : -highestPlace ≤ places) (furthest : places ≤ placeLimit) :
    fixed (.finite negative rank) places =
      if isTooLong (lastPlaceCount (grainsOfRank rank) places) then .error .tooManyDigits
      else .ok (fixedText negative (lastPlaceCount (grainsOfRank rank) places) places) := by
  unfold highestPlace at lowest
  unfold placeLimit at furthest
  have named : ¬placeLimit < places.natAbs := by
    unfold placeLimit
    omega
  have reached : ¬highestPlace < -places := by
    unfold highestPlace
    omega
  unfold fixed
  dsimp only
  rw [if_neg named, if_neg reached]

end Finite

theorem lt_length_digits_iff (width count : Nat) :
    width < (Nat.digits 10 count).length ↔ Nat.pow 10 width ≤ count := by
  rw [← not_le, Nat.digits_length_le_iff (by decide), not_lt]
  rfl

theorem is_too_long_iff_digits (count : Nat) :
    isTooLong count = true ↔ 400 < (Nat.digits 10 count).length := by
  unfold isTooLong
  generalize 400 = width
  rw [decide_eq_true_iff, lt_length_digits_iff]

/-- A number is written as the canonical numeral of the number that it is rounded to, ties away from
zero, unless the last places are so many that their count has more than 400 digits. -/
theorem fixed_correctly_rounded (value : Binary64) (places : Int) :
    (value.rational? = none → fixed value places = .error (.notFinite value)) ∧
    ∀ number, value.rational? = some number →
      (0 ≤ places → places ≤ 91 → ∃ text, fixed value places = .ok text) ∧
      (-highestPlace ≤ places → places ≤ placeLimit →
        ∃ count : ℤ, (∀ other, IsRounded (number * 10 ^ places) other ↔ other = count) ∧
          ((Nat.digits 10 count.natAbs).length ≤ 400 →
            ∃ text, fixed value places = .ok text ∧
              ∀ other, IsNumeralOf (count * 10 ^ (-places)) places.toNat other ↔ other = text) ∧
          (400 < (Nat.digits 10 count.natAbs).length →
            fixed value places = .error .tooManyDigits)) := by
  refine ⟨?_, ?_⟩
  · intro infinite
    exact fixed_of_not_finite (Binary64.rational_eq_none.1 infinite) places
  · intro number known
    obtain ⟨negative, rank, rfl, rfl⟩ := Binary64.rational_eq_some.1 known
    refine ⟨fixed_of_finite rfl, ?_⟩
    intro lowest furthest
    have rounded := is_rounded_last_place_count negative rank places
    refine ⟨signedCount negative (lastPlaceCount (grainsOfRank rank) places), ?_, ?_, ?_⟩
    · intro other
      constructor
      · intro also
        exact also.unique rounded
      · rintro rfl
        exact rounded
    · rw [natAbs_signed_count, fixed_finite negative rank lowest furthest]
      intro short
      have inRange := fun long => Nat.not_lt.2 short ((is_too_long_iff_digits _).1 long)
      have numeral := is_numeral_of_fixed_text negative
        (lastPlaceCount (grainsOfRank rank) places) places
      refine ⟨_, if_neg inRange, ?_⟩
      intro other
      constructor
      · intro also
        exact also.unique numeral
      · rintro rfl
        exact numeral
    · rw [natAbs_signed_count, fixed_finite negative rank lowest furthest]
      intro long
      exact if_pos ((is_too_long_iff_digits _).2 long)

def minusHalf : Binary64 :=
  .finite true ⟨1022 * 2 ^ 52, by decide⟩

theorem rational_minus_half : minusHalf.rational? = some (-(1 / 2)) := by
  have half : 2 * grainsOfRank (1022 * 2 ^ 52) = grainsPerOne := by decide +kernel
  have positive : (0 : ℚ) < grainsPerOne := Nat.cast_pos.2 Binary64.grains_per_one_pos
  have grains : (signedGrains true (1022 * 2 ^ 52) : ℚ) = -(grainsPerOne / 2) := by
    rw [signedGrains, if_pos rfl, ← half]
    push_cast
    ring
  refine Binary64.rational_eq_some.2 ⟨true, _, rfl, ?_⟩
  rw [grains]
  field_simp

/-- The number -1/2 is as near to zero as to -1 and is written as the one further from zero. Down to
the 401st place it has too many digits. -/
theorem minus_half_correctly_rounded :
    fixed .nan 0 = .error (.notFinite .nan) ∧ (∃ text, fixed minusHalf 91 = .ok text) ∧
      (IsRounded (-(1 / 2) * 10 ^ (0 : ℤ)) (-1) ∧ fixed minusHalf 0 = .ok "-1".toList ∧
        ∀ other, IsNumeralOf ((-1 : ℤ) * 10 ^ (-0 : ℤ)) 0 other ↔ other = "-1".toList) ∧
      ∃ count, IsRounded (-(1 / 2) * 10 ^ (401 : ℤ)) count ∧
        400 < (Nat.digits 10 count.natAbs).length ∧
        fixed minusHalf 401 = .error .tooManyDigits := by
  refine ⟨(fixed_correctly_rounded .nan 0).1 rfl, ?_, ?_, ?_⟩
  · have correct := (fixed_correctly_rounded minusHalf 91).2 _ rational_minus_half
    exact correct.1 (by decide) (by decide)
  · have half : IsRounded (1 / 2 : ℚ) 1 := by
      apply is_rounded_of_bounds <;> norm_num
    have rounded : IsRounded (-(1 / 2) * 10 ^ (0 : ℤ)) (-1) := by
      rw [zpow_zero, mul_one]
      exact half.neg
    have written : fixed minusHalf 0 = .ok "-1".toList := by decide +kernel
    have correct := (fixed_correctly_rounded minusHalf 0).2 _ rational_minus_half
    obtain ⟨count, nearest, short, _⟩ := correct.2 (by decide) (by decide)
    obtain rfl := (nearest (-1)).1 rounded
    obtain ⟨text, same, numerals⟩ := short (by decide)
    cases same.symm.trans written
    exact ⟨rounded, written, numerals⟩
  · have refused : fixed minusHalf 401 = .error .tooManyDigits := by decide +kernel
    have correct := (fixed_correctly_rounded minusHalf 401).2 _ rational_minus_half
    obtain ⟨count, nearest, short, long⟩ := correct.2 (by decide) (by decide)
    have tooLong : 400 < (Nat.digits 10 count.natAbs).length := by
      by_contra bounded
      obtain ⟨text, written, _⟩ := short (not_lt.1 bounded)
      cases refused.symm.trans written
    exact ⟨count, (nearest count).2 rfl, tooLong, long tooLong⟩

end Reckoner.Decimal
