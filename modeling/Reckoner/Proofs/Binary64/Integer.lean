import Mathlib.Algebra.Order.Ring.Int
import Reckoner.Binary64.Arithmetic
import Reckoner.Proofs.Binary64.Nearest

/-!
# Exact integers

Every integer up to 2^53 on either side of zero is a double precision number. What is a number
already is not changed by rounding, so sums, differences and products that come to such an integer
are exact. Only zero has a sign of its own.
-/

namespace Reckoner.Binary64

set_option autoImplicit false

theorem nearest_rank_exact (rank : Nat) {denominator : Nat} (positive : 0 < denominator) :
    nearestRank (grainsOfRank rank * denominator) denominator = rank := by
  have nearest := nearest_rank_nearest (grainsOfRank rank * denominator) positive rank
  unfold distance at nearest
  apply grains_of_rank_strict_mono.injective
  apply Nat.eq_of_mul_eq_mul_right positive
  omega

theorem of_grains_exact (negative : Bool) (rank : Fin rankLimit) {denominator : Nat}
    (positive : 0 < denominator) :
    ofGrains negative (grainsOfRank rank * denominator) denominator = finite negative rank := by
  simp [ofGrains, nearest_rank_exact rank.val positive]

/-- So many times a power of two is a magnitude. The smaller the multiple, the higher the power can
be for it to lie in a block of its own. -/
theorem exists_rank_shifted (shift : Nat) {steps : Nat} (bounded : steps ≤ 2 ^ 53) :
    ∃ rank ≤ (shift + 2) * 2 ^ 52, grainsOfRank rank = steps * 2 ^ shift := by
  induction shift generalizing steps with
  | zero =>
      refine ⟨steps, by omega, ?_⟩
      simpa using grains_of_rank_scaled 0 steps bounded (.inr rfl)
  | succ shift ih =>
      by_cases small : steps < 2 ^ 52
      · obtain ⟨rank, below, magnitude⟩ := ih (show 2 * steps ≤ 2 ^ 53 by omega)
        refine ⟨rank, Nat.le_trans below (Nat.mul_le_mul_right _ (by omega)), ?_⟩
        rw [magnitude, Nat.pow_succ, Nat.mul_comm 2 steps, Nat.mul_assoc, Nat.mul_comm 2]
      · refine ⟨(shift + 1) * 2 ^ 52 + steps, by omega, ?_⟩
        exact grains_of_rank_scaled (shift + 1) steps bounded (.inl (Nat.le_of_not_lt small))

theorem grains_per_one_eq : grainsPerOne = 2 ^ 1074 := by
  decide +kernel

theorem exists_rank {value : Nat} (bounded : value ≤ 2 ^ 53) :
    ∃ rank : Fin rankLimit, grainsOfRank rank = value * grainsPerOne := by
  obtain ⟨rank, below, magnitude⟩ := exists_rank_shifted 1074 bounded
  have limit : (1074 + 2) * 2 ^ 52 < rankLimit := by decide
  rw [← grains_per_one_eq] at magnitude
  exact ⟨⟨rank, Nat.lt_of_le_of_lt below limit⟩, magnitude⟩

/-- The number is the integer. Which of the two zeros it is does not matter. -/
inductive IsInteger : Binary64 → Int → Prop
  | finite {negative : Bool} {rank : Fin rankLimit} {integer : Int} :
      grainsOfRank rank = integer.natAbs * grainsPerOne →
      (integer ≠ 0 → negative = decide (integer < 0)) →
      IsInteger (.finite negative rank) integer

theorem is_integer_of_grains {negative : Bool} {denominator : Nat} {integer : Int}
    (positive : 0 < denominator) (bounded : integer.natAbs ≤ 2 ^ 53)
    (signed : integer ≠ 0 → negative = decide (integer < 0)) :
    IsInteger (ofGrains negative (integer.natAbs * grainsPerOne * denominator) denominator)
      integer := by
  obtain ⟨rank, magnitude⟩ := exists_rank bounded
  rw [← magnitude, of_grains_exact negative rank positive]
  exact .finite magnitude signed

theorem is_integer_of_decimal {value : Nat} (bounded : value ≤ 2 ^ 53) :
    IsInteger (ofDecimal value 0) value := by
  have exact := @is_integer_of_grains false 1 value Nat.one_pos bounded (by simp)
  simpa [ofDecimal] using exact

theorem is_integer_zero (negative : Bool) : IsInteger (zero negative) 0 :=
  .finite (by rw [Int.natAbs_zero, Nat.zero_mul]; rfl) (by simp)

theorem IsInteger.neg {value : Binary64} {integer : Int} (exact : IsInteger value integer) :
    IsInteger (-value) (-integer) := by
  obtain ⟨magnitude, signed⟩ := exact
  apply IsInteger.finite
  · rw [Int.natAbs_neg]
    exact magnitude
  · intro nonzero
    rw [signed (by omega)]
    by_cases negative : integer < 0 <;> simp [negative] <;> omega

theorem IsInteger.signed_grains_eq {negative : Bool} {rank : Fin rankLimit} {integer : Int}
    (exact : IsInteger (.finite negative rank) integer) :
    signedGrains negative rank = integer * grainsPerOne := by
  obtain ⟨magnitude, signed⟩ := exact
  rw [signedGrains, magnitude, Int.natCast_mul]
  generalize (grainsPerOne : Int) = unit
  by_cases zero : integer = 0
  · simp [zero]
  · rw [signed zero]
    by_cases below : integer < 0
    · have opposite : (integer.natAbs : Int) = -integer := by omega
      simp [below, opposite]
    · have same : (integer.natAbs : Int) = integer := by omega
      simp [below, same]

theorem finite_add_finite (leftSign rightSign : Bool) (leftRank rightRank : Fin rankLimit) :
    finite leftSign leftRank + finite rightSign rightRank =
      let sum := signedGrains leftSign leftRank + signedGrains rightSign rightRank
      if sum = 0 then zero (leftSign && rightSign)
      else ofGrains (decide (sum < 0)) sum.natAbs 1 := rfl

theorem finite_mul_finite (leftSign rightSign : Bool) (leftRank rightRank : Fin rankLimit) :
    finite leftSign leftRank * finite rightSign rightRank =
      ofGrains (leftSign ^^ rightSign) (grainsOfRank leftRank * grainsOfRank rightRank)
        grainsPerOne := by
  change mul _ _ = _
  rw [mul]

/-- The sign of a product is decided by the signs of its factors. -/
theorem decide_mul_neg {first second : Int} (firstNonzero : first ≠ 0)
    (secondNonzero : second ≠ 0) :
    decide (first * second < 0) = (decide (first < 0) ^^ decide (second < 0)) := by
  by_cases firstBelow : first < 0
  · by_cases secondBelow : second < 0
    · simp [firstBelow, secondBelow, Int.mul_pos_of_neg_of_neg, Int.le_of_lt]
    · have above : 0 < second := by omega
      simp [firstBelow, secondBelow, Int.mul_neg_of_neg_of_pos, above]
  · have above : 0 < first := by omega
    by_cases secondBelow : second < 0
    · simp [firstBelow, secondBelow, Int.mul_neg_of_pos_of_neg, above]
    · have bothAbove : 0 < second := by omega
      simp [firstBelow, secondBelow, above, bothAbove, Int.le_of_lt]

section Operations

variable {left right : Binary64} {first second : Int}

theorem IsInteger.add (leftExact : IsInteger left first) (rightExact : IsInteger right second)
    (bounded : (first + second).natAbs ≤ 2 ^ 53) : IsInteger (left + right) (first + second) := by
  have leftGrains := leftExact
  have rightGrains := rightExact
  cases leftExact with
  | finite =>
  cases rightExact with
  | finite =>
  have unit : (grainsPerOne : Int) ≠ 0 := Int.natCast_ne_zero.2 (Nat.ne_of_gt grains_per_one_pos)
  rw [finite_add_finite, leftGrains.signed_grains_eq, rightGrains.signed_grains_eq, ← Int.add_mul]
  dsimp only
  by_cases zero : first + second = 0
  · rw [zero, Int.zero_mul, if_pos rfl]
    exact is_integer_zero _
  · rw [if_neg (Int.mul_ne_zero zero unit), Int.natAbs_mul, Int.natAbs_natCast,
      decide_mul_neg zero unit]
    have rounded := @is_integer_of_grains (decide (first + second < 0)) 1 _ Nat.one_pos bounded
      (fun _ => rfl)
    have unsigned : ¬(grainsPerOne : Int) < 0 := Int.not_lt.2 (Int.natCast_nonneg _)
    rw [decide_eq_false unsigned, Bool.xor_false]
    rwa [Nat.mul_one] at rounded

theorem IsInteger.sub (leftExact : IsInteger left first) (rightExact : IsInteger right second)
    (bounded : (first - second).natAbs ≤ 2 ^ 53) : IsInteger (left - right) (first - second) :=
  leftExact.add rightExact.neg bounded

theorem IsInteger.mul (leftExact : IsInteger left first) (rightExact : IsInteger right second)
    (bounded : (first * second).natAbs ≤ 2 ^ 53) : IsInteger (left * right) (first * second) := by
  cases leftExact with
  | finite leftMagnitude leftSigned =>
  cases rightExact with
  | finite rightMagnitude rightSigned =>
  have grains : first.natAbs * grainsPerOne * (second.natAbs * grainsPerOne) =
      (first * second).natAbs * grainsPerOne * grainsPerOne := by
    rw [Int.natAbs_mul, Nat.mul_mul_mul_comm, Nat.mul_assoc (first.natAbs * second.natAbs)]
  rw [finite_mul_finite, leftMagnitude, rightMagnitude, grains]
  apply is_integer_of_grains grains_per_one_pos bounded
  intro nonzero
  obtain ⟨firstNonzero, secondNonzero⟩ := Int.mul_ne_zero_iff.1 nonzero
  rw [leftSigned firstNonzero, rightSigned secondNonzero,
    decide_mul_neg firstNonzero secondNonzero]

end Operations

end Reckoner.Binary64
