import Reckoner.Proofs.Binary64.Magnitude

/-!
# Rounding to the nearest magnitude

No magnitude is nearer to a ratio than the one it is rounded to. The magnitudes of the block of the
ratio and of all blocks above are multiples of one step, of which the nearest is taken, and those of
the blocks below are further away than the first of the block.
-/

namespace Reckoner.Binary64

set_option autoImplicit false

def distance (left right : Nat) : Nat :=
  (left - right) + (right - left)

theorem distance_mul (left right scale : Nat) :
    distance (left * scale) (right * scale) = distance left right * scale := by
  rw [distance, distance, Nat.add_mul, Nat.sub_mul, Nat.sub_mul]

/-- No magnitude is nearer to the ratio of grains than that of the rank. -/
def IsNearest (numerator denominator rank : Nat) : Prop :=
  ∀ other, distance (grainsOfRank rank * denominator) numerator ≤
    distance (grainsOfRank other * denominator) numerator

/-- No multiple of the denominator is nearer than the rounded quotient of it. -/
theorem round_half_even_nearest (numerator : Nat) {denominator : Nat} (positive : 0 < denominator)
    (other : Nat) :
    distance (roundHalfEven numerator denominator * denominator) numerator ≤
      distance (other * denominator) numerator := by
  have split := Nat.div_add_mod' numerator denominator
  have rest := Nat.mod_lt numerator positive
  have next := Nat.succ_mul (numerator / denominator) denominator
  rw [Nat.succ_eq_add_one] at next
  have sides : other * denominator ≤ numerator / denominator * denominator ∨
      (numerator / denominator + 1) * denominator ≤ other * denominator := by
    rcases Nat.lt_or_ge (numerator / denominator) other with above | below
    · exact .inr (Nat.mul_le_mul_right denominator above)
    · exact .inl (Nat.mul_le_mul_right denominator below)
  unfold roundHalfEven distance
  dsimp only
  split
  · rcases sides with below | above <;> omega
  · rcases sides with below | above <;> omega

/-- How many steps a ratio is rounded to: at most to the beginning of the next block, and in all but
the first block at least to the beginning of its own. -/
theorem round_half_even_bounds {numerator denominator low high : Nat} (positive : 0 < denominator)
    (above : low * denominator ≤ numerator) (below : numerator < high * denominator) :
    low ≤ roundHalfEven numerator denominator ∧ roundHalfEven numerator denominator ≤ high := by
  have least : low ≤ numerator / denominator := (Nat.le_div_iff_mul_le positive).2 above
  have greatest : numerator / denominator < high := (Nat.div_lt_iff_lt_mul positive).2 below
  unfold roundHalfEven
  dsimp only
  split <;> omega

section Ratio

variable (numerator : Nat) {denominator : Nat}

/-- The block of a ratio begins at or before it, unless it is the first, and ends behind it. -/
theorem block_bounds (positive : 0 < denominator) :
    ((numerator / denominator).log2 - 52 = 0 ∨
      2 ^ 52 * (denominator * 2 ^ ((numerator / denominator).log2 - 52)) ≤ numerator) ∧
    numerator < 2 ^ 53 * (denominator * 2 ^ ((numerator / denominator).log2 - 52)) := by
  constructor
  · by_cases first : (numerator / denominator).log2 - 52 = 0
    · exact .inl first
    · refine .inr ?_
      have nonzero : numerator / denominator ≠ 0 := by
        intro zero
        rw [zero] at first
        exact first rfl
      have whole := Nat.log2_self_le nonzero
      have exponent : (numerator / denominator).log2 =
          52 + ((numerator / denominator).log2 - 52) := by omega
      rw [exponent, Nat.pow_add, Nat.le_div_iff_mul_le positive] at whole
      rwa [Nat.mul_left_comm, Nat.mul_comm]
  · have whole := @Nat.lt_log2_self (numerator / denominator)
    have wider : 2 ^ ((numerator / denominator).log2 + 1) ≤
        2 ^ (53 + ((numerator / denominator).log2 - 52)) :=
      Nat.pow_le_pow_right (by decide) (by omega)
    have below := Nat.lt_of_lt_of_le whole wider
    rw [Nat.pow_add, Nat.div_lt_iff_lt_mul positive] at below
    rwa [Nat.mul_comm denominator, ← Nat.mul_assoc]

theorem grains_of_rank_nearest_rank (positive : 0 < denominator) :
    grainsOfRank (nearestRank numerator denominator) =
      roundHalfEven numerator (denominator * 2 ^ ((numerator / denominator).log2 - 52)) *
        2 ^ ((numerator / denominator).log2 - 52) := by
  obtain ⟨begins, ends⟩ := block_bounds numerator positive
  have scaled := Nat.mul_pos positive (Nat.two_pow_pos ((numerator / denominator).log2 - 52))
  apply grains_of_rank_scaled
  · exact (round_half_even_bounds scaled (by omega : 0 * _ ≤ numerator) ends).2
  · rcases begins with first | begins
    · exact .inr first
    · exact .inl (round_half_even_bounds scaled begins ends).1

/-- The magnitude that a ratio is rounded to is nearest to it. -/
theorem nearest_rank_nearest (positive : 0 < denominator) :
    IsNearest numerator denominator (nearestRank numerator denominator) := by
  intro other
  obtain ⟨begins, _⟩ := block_bounds numerator positive
  rw [grains_of_rank_nearest_rank numerator positive]
  generalize (numerator / denominator).log2 - 52 = shift at begins ⊢
  have scaled := Nat.mul_pos positive (Nat.two_pow_pos shift)
  have nearest := round_half_even_nearest numerator scaled
  rw [Nat.mul_assoc _ (2 ^ shift), Nat.mul_comm (2 ^ shift)]
  -- A magnitude that is no multiple of the step lies below the block of the ratio.
  by_cases multiple : 2 ^ shift ∣ grainsOfRank other
  · obtain ⟨steps, same⟩ := multiple
    rw [same, Nat.mul_comm (2 ^ shift) steps, Nat.mul_assoc steps, Nat.mul_comm (2 ^ shift)]
    exact nearest steps
  · have below : other < (shift + 1) * 2 ^ 52 + 0 := by
      by_contra above
      exact multiple (dvd_grains_of_rank (by omega))
    have smaller := grains_of_rank_strict_mono below
    rw [grains_of_rank_of_block shift (by decide), Nat.add_zero] at smaller
    have further := Nat.mul_le_mul_right denominator (Nat.le_of_lt smaller)
    rw [Nat.mul_assoc, Nat.mul_comm (2 ^ shift)] at further
    have first : 2 ^ 52 * (denominator * 2 ^ shift) ≤ numerator := by
      rcases begins with rfl | begins
      · exact absurd (Nat.one_dvd _) multiple
      · exact begins
    have least := nearest (2 ^ 52)
    unfold distance at least ⊢
    omega

end Ratio

end Reckoner.Binary64
