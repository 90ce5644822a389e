import Reckoner.Proofs.Decimal.Digits
import Reckoner.Proofs.Decimal.Rounding
import Reckoner.Proofs.Token.Literal

/-!
# Reading a rounded number back

A rounded number is written as a literal, with a minus sign before it where it is negative and not
zero. The literal stands for the count of last places that the number was rounded to, so its value,
rounded and written out once more, gives the same text.
-/

namespace Reckoner.Decimal

open Binary64 (IsNearest grainsOfRank grainsPerOne rankLimit)

set_option autoImplicit false

def literal (count places : Nat) : Numeral :=
  ⟨numeral (count / 10 ^ places), trimZeros (padded places (count % 10 ^ places)), false⟩

def showsMinus (negative : Bool) (count : Nat) : Bool :=
  negative && count != 0

theorem well_formed_literal (count places : Nat) : (literal count places).WellFormed := by
  refine ⟨numeral_ne_nil _, is_digit_of_mem_numeral _, ?_⟩
  exact is_digit_of_mem_trim_zeros (is_digit_of_mem_padded _ _)

theorem value_of_literal (count places : Nat) :
    (literal count places).fraction.length ≤ places ∧
      valueOf ((literal count places).whole ++ (literal count places).fraction) *
        10 ^ (places - (literal count places).fraction.length) = count := by
  have positive : 0 < 10 ^ places := Nat.pow_pos (by decide)
  obtain ⟨shorter, trimmed⟩ := value_of_trim_zeros (padded places (count % 10 ^ places))
  rw [length_padded] at shorter trimmed
  rw [value_of_padded places _ (Nat.mod_lt count positive)] at trimmed
  refine ⟨shorter, ?_⟩
  unfold literal
  dsimp only
  rw [value_of_append, value_of_numeral, Nat.add_mul, trimmed, Nat.mul_assoc, ← Nat.pow_add,
    Nat.add_sub_cancel' shorter, Nat.div_add_mod']

theorem literal_zero (places : Nat) : (literal 0 places).text = ['0'] := by
  rw [literal, Nat.zero_mod, padded_zero, trim_zeros_zeros, Nat.zero_div, numeral_of_lt (by decide)]
  rfl

theorem fixed_text_eq (negative : Bool) (count : Nat) {places : Int} (behind : 0 ≤ places) :
    fixedText negative count places =
      (if showsMinus negative count then ['-'] else []) ++ (literal count places.toNat).text := by
  unfold fixedText showsMinus
  by_cases zero : count = 0
  · rw [zero, literal_zero]
    simp
  · have noHigherPlace : (-places).toNat = 0 := by omega
    have shown : (count != 0) = true := by simpa using zero
    rw [if_neg zero, noHigherPlace, shown, Bool.and_true]
    simp [literal, Numeral.text, Numeral.fractionText, Numeral.percentText]

theorem fixed_text_shows_minus (negative : Bool) (count : Nat) {places : Int}
    (behind : 0 ≤ places) :
    fixedText (showsMinus negative count) count places = fixedText negative count places := by
  rw [fixed_text_eq _ _ behind, fixed_text_eq _ _ behind]
  unfold showsMinus
  rw [Bool.and_assoc, Bool.and_self]

theorem last_place_count_of_nonneg (grains : Nat) {places : Int} (behind : 0 ≤ places) :
    lastPlaceCount grains places = roundHalfUp (grains * 10 ^ places.toNat) grainsPerOne := by
  have noHigherPlace : (-places).toNat = 0 := by omega
  rw [lastPlaceCount, noHigherPlace, Nat.pow_eq, Nat.pow_eq, Nat.pow_zero, Nat.mul_one]

theorem nearest_scaled {numerator denominator rank : Nat} (scale : Nat)
    (nearest : IsNearest numerator denominator rank) :
    IsNearest (numerator * scale) (denominator * scale) rank := by
  intro other
  rw [← Nat.mul_assoc, ← Nat.mul_assoc, Binary64.distance_mul, Binary64.distance_mul]
  exact Nat.mul_le_mul_right scale (nearest other)

theorem nearest_literal (count places : Nat) :
    IsNearest (count * grainsPerOne) (10 ^ places)
      (Binary64.nearestRank
        (valueOf ((literal count places).whole ++ (literal count places).fraction) * grainsPerOne)
        (10 ^ (literal count places).fraction.length)) := by
  obtain ⟨shorter, value⟩ := value_of_literal count places
  have nearest := Binary64.nearest_rank_nearest
    (valueOf ((literal count places).whole ++ (literal count places).fraction) * grainsPerOne)
    (show 0 < 10 ^ (literal count places).fraction.length from Nat.pow_pos (by decide))
  have scaled := nearest_scaled (10 ^ (places - (literal count places).fraction.length)) nearest
  rwa [Nat.mul_right_comm, value, ← Nat.pow_add, Nat.add_sub_cancel' shorter] at scaled

theorem of_decimal_of_lt {digits places : Nat}
    (finite : Binary64.nearestRank (digits * grainsPerOne) (10 ^ places) < rankLimit) :
    Binary64.ofDecimal digits places = .finite false ⟨_, finite⟩ :=
  dif_pos finite

/-- The literal of a rounded finite number has a finite value with the same count of last places. -/
theorem value_literal {rank : Fin rankLimit} {places count : Nat}
    (counted : roundHalfUp (grainsOfRank rank * 10 ^ places) grainsPerOne = count) :
    ∃ other : Fin rankLimit, (literal count places).value = .finite false other ∧
      roundHalfUp (grainsOfRank other * 10 ^ places) grainsPerOne = count := by
  have nearest := nearest_literal count places
  have finite := lt_rank_limit_of_nearest rank.isLt (Nat.pow_pos (by decide)) counted nearest
  have plain : (literal count places).isPercent = false := rfl
  refine ⟨⟨_, finite⟩, ?_, round_half_up_of_nearest counted nearest⟩
  rw [Numeral.value, plain, if_neg (by decide), Numeral.plainValue]
  exact of_decimal_of_lt finite

/-- A number that can be written out is finite, and so can be every finite number that is rounded to
the same count of last places. -/
theorem fixed_eq_ok {value : Binary64} {places : Int} {text : Text}
    (written : fixed value places = .ok text) :
    ∃ negative rank, value = .finite negative rank ∧
      text = fixedText negative (lastPlaceCount (Binary64.grainsOfRank rank) places) places ∧
      ∀ sign (other : Fin Binary64.rankLimit),
        lastPlaceCount (Binary64.grainsOfRank other) places =
          lastPlaceCount (Binary64.grainsOfRank rank) places →
        fixed (.finite sign other) places =
          .ok (fixedText sign (lastPlaceCount (Binary64.grainsOfRank rank) places) places) := by
  cases value with
  | nan => contradiction
  | infinite => contradiction
  | finite negative rank =>
      unfold fixed at written
      dsimp only at written
      by_cases far : placeLimit < places.natAbs
      · rw [if_pos far] at written
        cases written
      · by_cases high : highestPlace < -places
        · rw [if_neg far, if_pos high] at written
          cases written
        · by_cases long :
              isTooLong (lastPlaceCount (Binary64.grainsOfRank rank) places) = true
          · rw [if_neg far, if_neg high, if_pos long] at written
            cases written
          · rw [if_neg far, if_neg high, if_neg long] at written
            refine ⟨negative, rank, rfl, (Except.ok.inj written).symm, ?_⟩
            intro sign other same
            unfold fixed
            dsimp only
            rw [if_neg far, if_neg high, same, if_neg long]

end Reckoner.Decimal
