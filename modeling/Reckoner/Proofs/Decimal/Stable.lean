import Mathlib.Algebra.Order.Field.Basic
import Reckoner.Proofs.Decimal.Correct

/-!
# Writing a number once more

What is written for a number is a rational number, and a finite number nearest to that one need not
be the number itself. Still the same is written for it, whichever of two equally near ones it is.
-/

namespace Reckoner.Decimal

open Binary64 (IsNearest IsNearestTo distance grainsOfRank grainsPerOne rankLimit signedGrains)

set_option autoImplicit false

section Apart

variable (negative sign : Bool) (rank other count places : Nat)

def rationalOf : ℚ :=
  signedCount negative count * 10 ^ (-(places : ℤ))

def apart : ℚ :=
  |(grainsOfRank rank : ℚ) / grainsPerOne - count * 10 ^ (-(places : ℤ))|

theorem cast_distance (left right : Nat) : (distance left right : ℚ) = |(left : ℚ) - right| := by
  unfold distance
  rcases Nat.le_total left right with below | above
  · have order : (left : ℚ) ≤ right := Nat.cast_le.2 below
    rw [Nat.sub_eq_zero_of_le below, Nat.zero_add, Nat.cast_sub below,
      abs_of_nonpos (sub_nonpos.2 order), neg_sub]
  · have order : (right : ℚ) ≤ left := Nat.cast_le.2 above
    rw [Nat.sub_eq_zero_of_le above, Nat.add_zero, Nat.cast_sub above,
      abs_of_nonneg (sub_nonneg.2 order)]

theorem apart_eq :
    apart rank count places =
      distance (grainsOfRank rank * 10 ^ places) (count * grainsPerOne) /
        (grainsPerOne * 10 ^ places) := by
  have one : (0 : ℚ) < grainsPerOne := Nat.cast_pos.2 Binary64.grains_per_one_pos
  have last : (0 : ℚ) < 10 ^ places := pow_pos (by norm_num) _
  rw [cast_distance, apart, zpow_neg, zpow_natCast, ← div_eq_mul_inv,
    div_sub_div _ _ one.ne' last.ne', abs_div, abs_of_pos (mul_pos one last)]
  push_cast
  rw [mul_comm (count : ℚ)]

theorem apart_le_iff :
    apart rank count places ≤ apart other count places ↔
      distance (grainsOfRank rank * 10 ^ places) (count * grainsPerOne) ≤
        distance (grainsOfRank other * 10 ^ places) (count * grainsPerOne) := by
  have one : (0 : ℚ) < grainsPerOne := Nat.cast_pos.2 Binary64.grains_per_one_pos
  have last : (0 : ℚ) < 10 ^ places := pow_pos (by norm_num) _
  rw [apart_eq, apart_eq, div_le_div_iff_of_pos_right (mul_pos one last), Nat.cast_le]

/-- Under one sign a number is as far from another one as their magnitudes are from each other. -/
theorem apart_of_same :
    |signedGrains negative rank / grainsPerOne - rationalOf negative count places| =
      apart rank count places := by
  cases negative with
  | false => rfl
  | true =>
      rw [apart, ← abs_neg, rationalOf, signedGrains, signedCount, if_pos rfl, if_pos rfl]
      congr 1
      push_cast
      ring

theorem magnitudes_nonneg :
    (0 : ℚ) ≤ grainsOfRank rank / grainsPerOne ∧ (0 : ℚ) ≤ count * 10 ^ (-(places : ℤ)) := by
  constructor
  · exact div_nonneg (Nat.cast_nonneg _) (Nat.cast_nonneg _)
  · exact mul_nonneg (Nat.cast_nonneg _) (zpow_nonneg (by norm_num) _)

/-- Under different signs they are apart by the sum of their magnitudes. -/
theorem apart_of_opposite :
    |signedGrains (!negative) rank / grainsPerOne - rationalOf negative count places| =
      grainsOfRank rank / grainsPerOne + count * 10 ^ (-(places : ℤ)) := by
  obtain ⟨own, written⟩ := magnitudes_nonneg rank count places
  rw [← abs_of_nonneg (add_nonneg own written)]
  cases negative with
  | false =>
      rw [← abs_neg, rationalOf, signedGrains, signedCount, if_pos (by rfl), if_neg (by decide)]
      congr 1
      push_cast
      ring
  | true =>
      rw [rationalOf, signedGrains, signedCount, if_neg (by decide), if_pos rfl]
      congr 1
      push_cast
      ring

theorem apart_le :
    apart rank count places ≤
      |signedGrains sign rank / grainsPerOne - rationalOf negative count places| := by
  by_cases same : sign = negative
  · rw [same, apart_of_same]
  · obtain ⟨own, written⟩ := magnitudes_nonneg rank count places
    rw [Bool.eq_not.2 same, apart_of_opposite, apart, abs_le]
    constructor <;> linarith

end Apart

section Nearest

variable {negative sign : Bool} {rank : Fin rankLimit} {count places : Nat}

/-- A magnitude nearest to a count of last places makes a nearest number under its sign. -/
theorem is_nearest_to_of_is_nearest
    (nearest : IsNearest (count * grainsPerOne) (10 ^ places) rank) :
    IsNearestTo (.finite negative rank) (rationalOf negative count places) := by
  refine ⟨_, rfl, ?_⟩
  intro other its known
  obtain ⟨sign, otherRank, rfl, rfl⟩ := Binary64.rational_eq_some.1 known
  calc
    |(signedGrains negative rank / grainsPerOne - rationalOf negative count places : ℚ)|
        = apart rank count places := apart_of_same _ _ _ _
    _ ≤ apart otherRank count places := (apart_le_iff _ _ _ _).2 (nearest otherRank)
    _ ≤ |signedGrains sign otherRank / grainsPerOne - rationalOf negative count places| :=
      apart_le _ _ _ _ _

/-- The magnitude of a nearest number is nearest among all, the infinitely many that are not finite
included, as long as one of the nearest of these is finite. -/
theorem is_nearest_of_is_nearest_to {finite : Nat} (inRange : finite < rankLimit)
    (best : IsNearest (count * grainsPerOne) (10 ^ places) finite)
    (nearest : IsNearestTo (.finite sign rank) (rationalOf negative count places)) :
    IsNearest (count * grainsPerOne) (10 ^ places) rank := by
  obtain ⟨own, known, least⟩ := nearest
  cases Option.some.inj known
  have bound : apart rank count places ≤ apart finite count places := by
    calc
      apart rank count places
          ≤ |signedGrains sign rank / grainsPerOne - rationalOf negative count places| :=
        apart_le _ _ _ _ _
      _ ≤ |signedGrains negative finite / grainsPerOne - rationalOf negative count places| :=
        least (.finite negative ⟨finite, inRange⟩) _ rfl
      _ = apart finite count places := apart_of_same _ _ _ _
  intro other
  exact ((apart_le_iff _ _ _ _).1 bound).trans (best other)

/-- A nearest number that is not zero has the sign of what is written, unless that is zero. -/
theorem sign_of_is_nearest_to (nonzero : 0 < grainsOfRank rank) (counted : count ≠ 0)
    (nearest : IsNearestTo (.finite sign rank) (rationalOf negative count places)) :
    sign = negative := by
  by_contra different
  obtain ⟨own, known, least⟩ := nearest
  cases Option.some.inj known
  have closer := least (.finite negative rank) _ rfl
  rw [Bool.eq_not.2 different, apart_of_opposite, apart_of_same, apart] at closer
  have own : (0 : ℚ) < grainsOfRank rank / grainsPerOne :=
    div_pos (Nat.cast_pos.2 nonzero) (Nat.cast_pos.2 Binary64.grains_per_one_pos)
  have written : (0 : ℚ) < count * 10 ^ (-(places : ℤ)) :=
    mul_pos (Nat.cast_pos.2 (Nat.pos_of_ne_zero counted)) (zpow_pos (by norm_num) _)
  rcases le_abs.1 closer with far | far <;> linarith

end Nearest

theorem rational_of_shows_minus (negative : Bool) (count places : Nat) :
    rationalOf (showsMinus negative count) count places = rationalOf negative count places := by
  unfold rationalOf signedCount showsMinus
  by_cases zero : count = 0
  · rw [zero]
    simp
  · have shown : (count != 0) = true := by simpa using zero
    rw [shown, Bool.and_true]

theorem pos_of_counted {rank count places : Nat} (nonzero : count ≠ 0)
    (counted : roundHalfUp (grainsOfRank rank * 10 ^ places) grainsPerOne = count) :
    0 < grainsOfRank rank := by
  apply Nat.pos_of_ne_zero
  intro zero
  have one := Binary64.grains_per_one_pos
  rw [zero, Nat.zero_mul, roundHalfUp, Nat.mul_zero, Nat.zero_add,
    Nat.div_eq_of_lt (by omega)] at counted
  exact nonzero counted.symm

/-- A number that is written out has the same written for every finite number that is nearest to the
one that is written, and the reader of numbers finds one. -/
theorem written_again (value : Binary64) (places : Int) (text : Text) (behind : 0 ≤ places)
    (written : fixed value places = .ok text) :
    (∃ number, IsNumeralOf number places.toNat text) ∧
    ∀ number, IsNumeralOf number places.toNat text →
      (∃ reread, Binary64.ofText? text = some reread ∧ reread.IsNearestTo number) ∧
      ∀ reread : Binary64, reread.IsNearestTo number → fixed reread places = .ok text := by
  obtain ⟨negative, rank, rfl, rfl, same⟩ := fixed_eq_ok written
  lift places to ℕ using behind
  have behind := Int.natCast_nonneg places
  rw [Int.toNat_natCast]
  have counted : roundHalfUp (grainsOfRank rank * 10 ^ places) grainsPerOne =
      lastPlaceCount (grainsOfRank rank) places :=
    (last_place_count_of_nonneg _ behind).symm
  generalize lastPlaceCount (grainsOfRank rank) places = count at counted same
  have numeral : IsNumeralOf (rationalOf negative count places) places
      (fixedText negative count places) := is_numeral_of_fixed_text negative count places
  have best := nearest_literal count places
  have inRange := lt_rank_limit_of_nearest rank.isLt (Nat.pow_pos (by decide)) counted best
  refine ⟨⟨_, numeral⟩, ?_⟩
  intro number also
  obtain rfl := also.number_unique numeral
  constructor
  · refine ⟨.finite (showsMinus negative count) ⟨_, inRange⟩, ?_, ?_⟩
    · rw [fixed_text_eq _ _ behind,
        Binary64.of_text_text (well_formed_literal _ _) rfl, Binary64.ofGrains]
      rw [dif_pos]
      rfl
    · rw [← rational_of_shows_minus]
      exact is_nearest_to_of_is_nearest best
  · intro reread nearest
    obtain ⟨sign, other, rfl⟩ := nearest.exists_finite
    have again :=
      round_half_up_of_nearest counted (is_nearest_of_is_nearest_to inRange best nearest)
    have shown : showsMinus sign count = showsMinus negative count := by
      by_cases zero : count = 0
      · rw [zero, showsMinus, showsMinus, bne_self_eq_false, Bool.and_false, Bool.and_false]
      · rw [sign_of_is_nearest_to (pos_of_counted zero again) zero nearest]
    have sameCount := last_place_count_of_nonneg (grainsOfRank other) behind
    rw [same sign other (sameCount.trans again), ← fixed_text_shows_minus sign count behind, shown,
      fixed_text_shows_minus negative count behind]

def inverse512 : Binary64 :=
  .finite false ⟨1014 * 2 ^ 52, by decide⟩

/-- What is written for 1/512 is read as another number, for which the same is written. -/
theorem inverse_512_written_again :
    (0 : ℤ) ≤ 8 ∧ fixed inverse512 8 = .ok "0.00195313".toList ∧
      ∃ reread, Binary64.ofText? "0.00195313".toList = some reread ∧ reread ≠ inverse512 ∧
        (∃ number, IsNumeralOf number 8 "0.00195313".toList ∧ reread.IsNearestTo number) ∧
        fixed reread 8 = .ok "0.00195313".toList := by
  have written : fixed inverse512 8 = .ok "0.00195313".toList := by decide +kernel
  have different : Binary64.ofText? "0.00195313".toList ≠ some inverse512 := by decide +kernel
  obtain ⟨⟨number, numeral⟩, again⟩ := written_again inverse512 8 _ (by decide) written
  obtain ⟨⟨reread, read, nearest⟩, all⟩ := again number numeral
  refine ⟨by decide, written, reread, read, ?_, ⟨number, numeral, nearest⟩, all reread nearest⟩
  rintro rfl
  exact different read

end Reckoner.Decimal
