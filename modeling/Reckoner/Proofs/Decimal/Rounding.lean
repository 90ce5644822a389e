import Reckoner.Decimal.Fixed
import Reckoner.Proofs.Binary64.Nearest

/-!
# Rounding a rounded number once more

A magnitude is rounded to a count of last places, and that count is read as a nearest magnitude. The
two magnitudes are at most a last place apart, and they are that far apart only if both are just
half a last place away from the count. Between them there is no other magnitude then, so a last
place is one step of the magnitudes and divides the lower one, which cannot be half a last place
off.
-/

namespace Reckoner.Decimal

open Binary64 (IsNearest distance grainsOfRank grainsPerOne rankLimit)

set_option autoImplicit false

theorem round_half_up_bounds (numerator : Nat) {denominator : Nat} (positive : 0 < denominator) :
    2 * (roundHalfUp numerator denominator * denominator) ≤ 2 * numerator + denominator ∧
      2 * numerator < 2 * (roundHalfUp numerator denominator * denominator) + denominator := by
  have doubled : 0 < 2 * denominator := by omega
  have split := Nat.div_add_mod' (2 * numerator + denominator) (2 * denominator)
  have rest := Nat.mod_lt (2 * numerator + denominator) doubled
  unfold roundHalfUp
  rw [Nat.mul_left_comm] at split
  omega

theorem round_half_up_eq {numerator denominator count : Nat}
    (above : 2 * (count * denominator) ≤ 2 * numerator + denominator)
    (below : 2 * numerator < 2 * (count * denominator) + denominator) :
    roundHalfUp numerator denominator = count := by
  have least : count * (2 * denominator) ≤ 2 * numerator + denominator := by
    rw [Nat.mul_left_comm]
    exact above
  have greatest : 2 * numerator + denominator < (count + 1) * (2 * denominator) := by
    rw [Nat.mul_left_comm (count + 1), Nat.add_mul]
    omega
  exact Nat.div_eq_of_lt_le least greatest

section Reread

variable {rank other scale count : Nat}

theorem not_dvd_of_half {magnitude place : Nat} (positive : 0 < place)
    (half : 2 * magnitude + place = 2 * (count * place)) : ¬place ∣ magnitude := by
  rintro ⟨multiple, rfl⟩
  have odd : place * (2 * multiple + 1) = place * (2 * count) := by
    rw [Nat.mul_add, Nat.mul_left_comm, Nat.mul_one, half, Nat.mul_comm count, Nat.mul_left_comm]
  have same := Nat.eq_of_mul_eq_mul_left positive odd
  omega

/-- Two magnitudes with none between them are not half a last place below and above one count. -/
theorem not_both_halves
    (below : 2 * (grainsOfRank rank * scale) + grainsPerOne = 2 * (count * grainsPerOne))
    (above : grainsOfRank (rank + 1) * scale = grainsOfRank rank * scale + grainsPerOne) :
    False := by
  obtain ⟨shift, next, divides⟩ := Binary64.grains_of_rank_succ rank
  rw [next, Nat.add_mul] at above
  have step : 2 ^ shift * scale = grainsPerOne := Nat.add_left_cancel above
  apply not_dvd_of_half Binary64.grains_per_one_pos below
  rw [← step]
  exact Nat.mul_dvd_mul_right divides scale

/-- Between two magnitudes half a last place below and above a count, none is nearer to the count
than they are only if there is none. -/
theorem adjacent_of_halves (nearest : IsNearest (count * grainsPerOne) scale other)
    (below : 2 * (grainsOfRank rank * scale) + grainsPerOne = 2 * (count * grainsPerOne))
    (above : grainsOfRank other * scale = grainsOfRank rank * scale + grainsPerOne) :
    other = rank + 1 := by
  have positive := Binary64.grains_per_one_pos
  have order : rank < other := by
    apply Binary64.grains_of_rank_strict_mono.lt_iff_lt.1
    exact Nat.lt_of_mul_lt_mul_right (a := scale) (by omega)
  by_contra apart
  have between : rank + 1 < other := by omega
  have scaled : 0 < scale := by
    apply Nat.pos_of_ne_zero
    rintro rfl
    omega
  have first := Nat.mul_lt_mul_of_pos_right
    (Binary64.grains_of_rank_strict_mono (Nat.lt_add_one rank)) scaled
  have second := Nat.mul_lt_mul_of_pos_right (Binary64.grains_of_rank_strict_mono between) scaled
  have nearer := nearest (rank + 1)
  unfold distance at nearer
  omega

/-- The magnitude nearest to the count that a magnitude is rounded to has the same count, whichever
of two equally near ones is taken. -/
theorem round_half_up_of_nearest
    (counted : roundHalfUp (grainsOfRank rank * scale) grainsPerOne = count)
    (nearest : IsNearest (count * grainsPerOne) scale other) :
    roundHalfUp (grainsOfRank other * scale) grainsPerOne = count := by
  obtain ⟨least, greatest⟩ :=
    round_half_up_bounds (grainsOfRank rank * scale) Binary64.grains_per_one_pos
  rw [counted] at least greatest
  have near := nearest rank
  unfold distance at near
  by_cases below : 2 * (grainsOfRank other * scale) < 2 * (count * grainsPerOne) + grainsPerOne
  · exact round_half_up_eq (by omega) below
  · exfalso
    -- Both magnitudes are half a last place away from the count, one below and one above it.
    have half : 2 * (grainsOfRank rank * scale) + grainsPerOne = 2 * (count * grainsPerOne) := by
      omega
    have apart : grainsOfRank other * scale = grainsOfRank rank * scale + grainsPerOne := by
      omega
    have adjacent := adjacent_of_halves nearest half apart
    subst adjacent
    exact not_both_halves half apart

/-- That magnitude is finite if the rounded one is. -/
theorem lt_rank_limit_of_nearest (finite : rank < rankLimit) (scaled : 0 < scale)
    (counted : roundHalfUp (grainsOfRank rank * scale) grainsPerOne = count)
    (nearest : IsNearest (count * grainsPerOne) scale other) : other < rankLimit := by
  by_contra beyond
  obtain ⟨least, greatest⟩ :=
    round_half_up_bounds (grainsOfRank rank * scale) Binary64.grains_per_one_pos
  rw [counted] at least greatest
  have near := nearest rank
  unfold distance at near
  have below := Binary64.grains_of_rank_strict_mono.monotone (show rank ≤ rankLimit - 1 by omega)
  have above := Binary64.grains_of_rank_strict_mono.monotone (show rankLimit ≤ other by omega)
  have gap := Binary64.grains_of_rank_rank_limit
  have wide : grainsOfRank rank + grainsPerOne + 1 ≤ grainsOfRank other := by omega
  have scaledGap := Nat.mul_le_mul_right scale wide
  rw [Nat.add_mul, Nat.add_mul] at scaledGap
  have unit := Nat.le_mul_of_pos_right grainsPerOne scaled
  omega

end Reread

end Reckoner.Decimal
