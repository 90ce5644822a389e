import Reckoner.Proofs.Binary64.Magnitude
import Reckoner.Proofs.Decimal.Fixed

/-!
# Which numbers are written out

No numeral has more than 400 digits. Down to the 91st place behind the point this is enough for
every finite number; from there on it depends on the number and on the place.
-/

namespace Reckoner.Decimal

open Binary64 (grainsOfRank grainsPerOne rankLimit)

set_option autoImplicit false

/-- The number has more digits down to the last place than are ever written, or the place lies too
far behind the point to be named. -/
def OutOfRange (value : Binary64) (places : Int) : Prop :=
  placeLimit < places.natAbs ∨
    ∃ negative rank, value = .finite negative rank ∧
      Nat.pow 10 400 ≤ lastPlaceCount (grainsOfRank rank) places

theorem fixed_of_not_finite {value : Binary64} (other : value.isFinite = false) (places : Int) :
    fixed value places = .error (.notFinite value) := by
  cases value with
  | nan => rfl
  | infinite negative => rfl
  | finite negative rank => contradiction

/-- What keeps a finite number from being written out has no code. -/
theorem code_of_fixed {value : Binary64} {places : Int} {fault : Fault}
    (finite : value.isFinite = true) (unwritten : fixed value places = .error fault) :
    fault.code? = none := by
  cases value with
  | nan => contradiction
  | infinite => contradiction
  | finite negative rank =>
      unfold fixed at unwritten
      dsimp only at unwritten
      split at unwritten
      · cases unwritten
        rfl
      · split at unwritten
        · cases unwritten
          rfl
        · split at unwritten
          · cases unwritten
            rfl
          · contradiction

theorem is_too_long_iff (count : Nat) : isTooLong count = true ↔ Nat.pow 10 400 ≤ count :=
  decide_eq_true_iff

theorem out_of_range_finite (negative : Bool) (rank : Fin rankLimit) (places : Int) :
    OutOfRange (.finite negative rank) places ↔
      placeLimit < places.natAbs ∨
        isTooLong (lastPlaceCount (grainsOfRank rank) places) = true := by
  unfold OutOfRange
  apply or_congr_right
  constructor
  · rintro ⟨_, _, same, long⟩
    cases same
    exact (is_too_long_iff _).2 long
  · intro long
    exact ⟨negative, rank, rfl, (is_too_long_iff _).1 long⟩

/-- A finite number is written out unless it has too many digits. -/
theorem fixed_error_iff {value : Binary64} {places : Int} {fault : Fault}
    (finite : value.isFinite = true) (behind : 0 ≤ places) :
    fixed value places = .error fault ↔ fault = .tooManyDigits ∧ OutOfRange value places := by
  cases value with
  | nan => contradiction
  | infinite => contradiction
  | finite negative rank =>
      have notHigh : ¬highestPlace < -places := by
        unfold highestPlace
        omega
      rw [out_of_range_finite, fixed, if_neg notHigh]
      dsimp only
      by_cases far : placeLimit < places.natAbs
      · rw [if_pos far, Except.error.injEq]
        exact ⟨fun same => ⟨same.symm, .inl far⟩, fun out => out.1.symm⟩
      · rw [if_neg far]
        by_cases long : isTooLong (lastPlaceCount (grainsOfRank rank) places) = true
        · rw [if_pos long, Except.error.injEq]
          exact ⟨fun same => ⟨same.symm, .inr long⟩, fun out => out.1.symm⟩
        · rw [if_neg long]
          apply iff_of_false nofun
          rintro ⟨_, named | counted⟩
          · exact far named
          · exact long counted

theorem greatest_in_range :
    2 * (grainsOfRank (rankLimit - 1) * 10 ^ 91) + grainsPerOne <
      Nat.pow 10 400 * (2 * grainsPerOne) := by
  decide +kernel

theorem last_place_count_lt {rank : Nat} {places : Int} (finite : rank < rankLimit)
    (behind : 0 ≤ places) (bounded : places ≤ 91) :
    lastPlaceCount (grainsOfRank rank) places < Nat.pow 10 400 := by
  have positive : 0 < 2 * grainsPerOne := Nat.mul_pos (by decide) Binary64.grains_per_one_pos
  rw [last_place_count_of_nonneg _ behind, roundHalfUp, Nat.div_lt_iff_lt_mul positive]
  have magnitude : grainsOfRank rank ≤ grainsOfRank (rankLimit - 1) :=
    Binary64.grains_of_rank_strict_mono.monotone (by omega)
  have scale : 10 ^ places.toNat ≤ 10 ^ 91 := Nat.pow_le_pow_right (by decide) (by omega)
  have scaled := Nat.mul_le_mul magnitude scale
  calc
    2 * (grainsOfRank rank * 10 ^ places.toNat) + grainsPerOne
        ≤ 2 * (grainsOfRank (rankLimit - 1) * 10 ^ 91) + grainsPerOne :=
      Nat.add_le_add_right (Nat.mul_le_mul_left 2 scaled) _
    _ < Nat.pow 10 400 * (2 * grainsPerOne) := greatest_in_range

/-- Down to the 91st place every finite number is written out. -/
theorem not_out_of_range {value : Binary64} {places : Int} (behind : 0 ≤ places)
    (bounded : places ≤ 91) : ¬OutOfRange value places := by
  rintro (far | ⟨negative, rank, rfl, long⟩)
  · unfold placeLimit at far
    omega
  · exact Nat.not_le.2 (last_place_count_lt rank.isLt behind bounded) long

theorem le_round_half_up {count numerator denominator : Nat} (positive : 0 < denominator)
    (reached : count * denominator ≤ numerator) : count ≤ roundHalfUp numerator denominator := by
  rw [roundHalfUp, Nat.le_div_iff_mul_le (by omega)]
  calc
    count * (2 * denominator) = 2 * (count * denominator) := Nat.mul_left_comm _ _ _
    _ ≤ 2 * numerator + denominator := by omega

theorem of_decimal_long :
    ∃ rank, Binary64.ofDecimal (Nat.pow 10 308) 0 = .finite false rank ∧
      Nat.pow 10 308 * grainsPerOne ≤ grainsOfRank rank := by
  exact ⟨⟨Binary64.nearestRank (Nat.pow 10 308 * grainsPerOne) 1, by decide +kernel⟩,
    by decide +kernel, by decide +kernel⟩

/-- From the 92nd place on a number of 309 digits in front of the point has too many. -/
theorem out_of_range_of_far {places : Int} (far : 92 ≤ places) :
    OutOfRange (Binary64.ofDecimal (Nat.pow 10 308) 0) places := by
  obtain ⟨rank, same, magnitude⟩ := of_decimal_long
  refine .inr ⟨false, rank, same, ?_⟩
  rw [last_place_count_of_nonneg _ (by omega)]
  apply le_round_half_up Binary64.grains_per_one_pos
  have scale : 10 ^ 92 ≤ 10 ^ places.toNat := Nat.pow_le_pow_right (by decide) (by omega)
  calc
    Nat.pow 10 400 * grainsPerOne = Nat.pow 10 308 * grainsPerOne * 10 ^ 92 := by decide +kernel
    _ ≤ grainsOfRank rank * 10 ^ places.toNat := Nat.mul_le_mul magnitude scale

theorem fixed_of_finite {value : Binary64} {places : Int} (finite : value.isFinite = true)
    (behind : 0 ≤ places) (bounded : places ≤ 91) : ∃ text, fixed value places = .ok text := by
  cases written : fixed value places with
  | ok text => exact ⟨text, rfl⟩
  | error fault =>
      obtain ⟨_, outOfRange⟩ := (fixed_error_iff finite behind).1 written
      exact absurd outOfRange (not_out_of_range behind bounded)

end Reckoner.Decimal
