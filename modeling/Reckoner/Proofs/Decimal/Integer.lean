import Reckoner.Proofs.Binary64.Integer
import Reckoner.Proofs.Decimal.Range

/-!
# Writing integers

A number that is an integer is written as the numeral of the integer, down to whatever place it is
rounded: there is nothing to round, no fraction is left, and zero has no sign.
-/

namespace Reckoner.Decimal

open Binary64 (IsInteger grainsOfRank grainsPerOne)

set_option autoImplicit false

theorem round_half_up_multiple (count : Nat) {denominator : Nat} (positive : 0 < denominator) :
    roundHalfUp (count * denominator) denominator = count := by
  apply round_half_up_eq <;> omega

theorem last_place_count_integer {rank : Nat} {integer : Int} {places : Int}
    (magnitude : grainsOfRank rank = integer.natAbs * grainsPerOne) (behind : 0 ≤ places) :
    lastPlaceCount (grainsOfRank rank) places = integer.natAbs * 10 ^ places.toNat := by
  rw [last_place_count_of_nonneg _ behind, magnitude, Nat.mul_right_comm]
  exact round_half_up_multiple _ Binary64.grains_per_one_pos

theorem literal_integer (value places : Nat) :
    (literal (value * 10 ^ places) places).text = numeral value := by
  have positive : 0 < 10 ^ places := Nat.pow_pos (by decide)
  rw [literal, Nat.mul_div_cancel value positive, Nat.mul_mod_left, padded_zero, trim_zeros_zeros]
  simp [Numeral.text, Numeral.fractionText, Numeral.percentText]

theorem shows_minus_integer {negative : Bool} {integer : Int} (places : Nat)
    (signed : integer ≠ 0 → negative = decide (integer < 0)) :
    showsMinus negative (integer.natAbs * 10 ^ places) = decide (integer < 0) := by
  unfold showsMinus
  by_cases zero : integer = 0
  · simp [zero]
  · simp [signed zero, zero]

/-- An integer is written as its numeral. -/
theorem fixed_integer {value : Binary64} {integer places : Int} (exact : IsInteger value integer)
    (behind : 0 ≤ places) (bounded : places ≤ 91) :
    fixed value places = .ok (integerNumeral integer) := by
  cases exact with
  | @finite negative rank _ magnitude signed =>
  have finite : (Binary64.finite negative rank).isFinite = true := rfl
  obtain ⟨text, written⟩ := fixed_of_finite finite behind bounded
  obtain ⟨_, _, same, shown, _⟩ := fixed_eq_ok written
  cases same
  rw [written, shown, last_place_count_integer magnitude behind, fixed_text_eq _ _ behind,
    shows_minus_integer _ signed, literal_integer, integerNumeral]
  by_cases below : integer < 0 <;> simp [below]

end Reckoner.Decimal
