import Mathlib.Algebra.Group.Nat.Defs
import Mathlib.Order.Monotone.Basic
import Reckoner.Binary64.Basic

/-!
# Magnitudes

Ranks come in blocks of 2^52, and inside a block the magnitudes are whole multiples of a power of
two. From each magnitude to the next it is one step, which is a power of two that divides the
magnitude.
-/

namespace Reckoner.Binary64

set_option autoImplicit false

theorem grains_per_one_pos : 0 < grainsPerOne := by
  decide +kernel

theorem grains_of_rank_eq (rank : Nat) :
    grainsOfRank rank =
      if rank < 2 ^ 52 then rank else (2 ^ 52 + rank % 2 ^ 52) * 2 ^ (rank / 2 ^ 52 - 1) := rfl

theorem grains_of_rank_of_lt {rank : Nat} (small : rank < 2 ^ 52) : grainsOfRank rank = rank := by
  rw [grains_of_rank_eq, if_pos small]

theorem grains_of_rank_of_block (shift : Nat) {offset : Nat} (inside : offset < 2 ^ 52) :
    grainsOfRank ((shift + 1) * 2 ^ 52 + offset) = (2 ^ 52 + offset) * 2 ^ shift := by
  have block : ((shift + 1) * 2 ^ 52 + offset) / 2 ^ 52 = shift + 1 := by omega
  have position : ((shift + 1) * 2 ^ 52 + offset) % 2 ^ 52 = offset := by omega
  rw [grains_of_rank_eq, if_neg (by omega), block, position, Nat.add_sub_cancel]

theorem rank_cases (rank : Nat) :
    rank < 2 ^ 52 ∨ ∃ shift offset, offset < 2 ^ 52 ∧ rank = (shift + 1) * 2 ^ 52 + offset := by
  by_cases small : rank < 2 ^ 52
  · exact .inl small
  · refine .inr ⟨rank / 2 ^ 52 - 1, rank % 2 ^ 52, Nat.mod_lt _ (by decide), ?_⟩
    omega

/-- So many steps of a block, the step to the next block included, are the magnitude of the rank
that is so much higher than the block's number. -/
theorem grains_of_rank_scaled (shift steps : Nat) (bound : steps ≤ 2 ^ 53)
    (wide : 2 ^ 52 ≤ steps ∨ shift = 0) :
    grainsOfRank (shift * 2 ^ 52 + steps) = steps * 2 ^ shift := by
  by_cases small : steps < 2 ^ 52
  · have single : shift = 0 := by
      rcases wide with wide | single
      · omega
      · exact single
    subst single
    rw [Nat.zero_mul, Nat.zero_add, grains_of_rank_of_lt small, Nat.pow_zero, Nat.mul_one]
  · by_cases carried : steps = 2 ^ 53
    · have rank : shift * 2 ^ 52 + steps = (shift + 1 + 1) * 2 ^ 52 + 0 := by omega
      rw [rank, grains_of_rank_of_block (shift + 1) (by decide), carried, Nat.pow_succ 2 shift]
      omega
    · have rank : shift * 2 ^ 52 + steps = (shift + 1) * 2 ^ 52 + (steps - 2 ^ 52) := by omega
      have whole : 2 ^ 52 + (steps - 2 ^ 52) = steps := by omega
      rw [rank, grains_of_rank_of_block shift (by omega), whole]

/-- The next magnitude is a step away, and the step divides the magnitude. -/
theorem grains_of_rank_succ (rank : Nat) :
    ∃ shift, grainsOfRank (rank + 1) = grainsOfRank rank + 2 ^ shift ∧
      2 ^ shift ∣ grainsOfRank rank := by
  rcases rank_cases rank with small | ⟨shift, offset, inside, rfl⟩
  · refine ⟨0, ?_, Nat.one_dvd _⟩
    have next := grains_of_rank_scaled 0 (rank + 1) (by omega) (.inr rfl)
    rw [Nat.zero_mul, Nat.zero_add] at next
    rw [next, grains_of_rank_of_lt small, Nat.pow_zero, Nat.mul_one]
  · refine ⟨shift, ?_, ?_⟩
    · have next := grains_of_rank_scaled shift (2 ^ 52 + offset + 1) (by omega)
        (by omega)
      have rank : shift * 2 ^ 52 + (2 ^ 52 + offset + 1) =
          (shift + 1) * 2 ^ 52 + offset + 1 := by omega
      rw [rank] at next
      rw [next, grains_of_rank_of_block shift inside, Nat.succ_mul]
    · rw [grains_of_rank_of_block shift inside]
      exact Nat.dvd_mul_left _ _

theorem grains_of_rank_strict_mono : StrictMono grainsOfRank := by
  apply strictMono_nat_of_lt_succ
  intro rank
  obtain ⟨shift, next, _⟩ := grains_of_rank_succ rank
  rw [next]
  exact Nat.lt_add_of_pos_right (Nat.two_pow_pos shift)

theorem dvd_grains_of_rank {shift rank : Nat} (above : (shift + 1) * 2 ^ 52 ≤ rank) :
    2 ^ shift ∣ grainsOfRank rank := by
  rcases rank_cases rank with small | ⟨wider, offset, inside, rfl⟩
  · omega
  · rw [grains_of_rank_of_block wider inside]
    have order : shift ≤ wider := by omega
    exact Nat.dvd_mul_left_of_dvd (Nat.pow_dvd_pow 2 order) _

/-- Beyond the greatest finite magnitude the step is more than one. -/
theorem grains_of_rank_rank_limit :
    grainsOfRank (rankLimit - 1) + grainsPerOne < grainsOfRank rankLimit := by
  decide +kernel

end Reckoner.Binary64
