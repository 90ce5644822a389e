import Mathlib.Algebra.Order.Field.Power
import Mathlib.Algebra.Order.Field.Rat
import Mathlib.Algebra.Order.Ring.Abs
import Mathlib.Data.Rat.Cast.CharZero
import Mathlib.Tactic.FieldSimp
import Mathlib.Tactic.Linarith
import Reckoner.Proofs.Binary64.Reading
import Reckoner.Proofs.Decimal.Fixed

/-!
# Canonical numerals

A number that can be written with digits and a point has one shortest literal: no zero leads the
digits before the point, unless it is the only one, and none ends those behind it. Under a minus
sign where the number is negative, this is its canonical numeral.
-/

namespace Reckoner

set_option autoImplicit false

namespace Decimal

variable {digits : Text}

theorem digit_of_is_digit {c : Char} (isDigit : c.isDigit = true) :
    c.toNat - 48 < 10 ∧ digit (c.toNat - 48) = c := by
  obtain ⟨least, greatest⟩ := Text.toNat_of_is_digit isDigit
  refine ⟨by omega, ?_⟩
  rw [digit, Nat.add_sub_cancel' least, Char.ofNat_toNat]

/-- The last digit and those before it can be told from the value. -/
theorem value_of_concat_spec {c : Char} (front : Text) (isDigit : c.isDigit = true) :
    valueOf (front ++ [c]) / 10 = valueOf front ∧ digit (valueOf (front ++ [c]) % 10) = c := by
  obtain ⟨small, same⟩ := digit_of_is_digit isDigit
  have lowest : (10 * valueOf front + (c.toNat - 48)) % 10 = c.toNat - 48 := by omega
  rw [value_of_append_digit, lowest, same]
  exact ⟨by omega, rfl⟩

theorem value_of_lt (all : ∀ c ∈ digits, c.isDigit = true) :
    valueOf digits < 10 ^ digits.length := by
  induction digits using List.reverseRecOn with
  | nil => decide
  | append_singleton front c ih =>
      obtain ⟨before, last⟩ := List.forall_mem_append.1 all
      have higher := (value_of_concat_spec front (last c List.mem_cons_self)).1
      have bounded := ih before
      rw [List.length_append, List.length_singleton, Nat.pow_succ]
      omega

/-- In two numbers with equally many digits behind some point, both sides of it are equal if the
numbers are. -/
theorem value_of_append_inj {others behind behindOthers : Text}
    (all : ∀ c ∈ behind, c.isDigit = true) (allOthers : ∀ c ∈ behindOthers, c.isDigit = true)
    (lengths : behind.length = behindOthers.length)
    (same : valueOf (digits ++ behind) = valueOf (others ++ behindOthers)) :
    valueOf digits = valueOf others ∧ valueOf behind = valueOf behindOthers := by
  have positive : 0 < 10 ^ behindOthers.length := Nat.pow_pos (by decide)
  have below := value_of_lt all
  have belowOthers := value_of_lt allOthers
  rw [value_of_append, value_of_append, lengths] at same
  rw [lengths] at below
  have quotients := congrArg (· / 10 ^ behindOthers.length) same
  have rests := congrArg (· % 10 ^ behindOthers.length) same
  simp only [Nat.mul_add_mod', Nat.mod_eq_of_lt below, Nat.mod_eq_of_lt belowOthers] at rests
  rw [rests] at same
  exact ⟨Nat.eq_of_mul_eq_mul_right positive (Nat.add_right_cancel same), rests⟩

/-- Digits are what their value is written as in their width. -/
theorem padded_value_of (all : ∀ c ∈ digits, c.isDigit = true) :
    padded digits.length (valueOf digits) = digits := by
  induction digits using List.reverseRecOn with
  | nil => rfl
  | append_singleton front c ih =>
      obtain ⟨before, last⟩ := List.forall_mem_append.1 all
      obtain ⟨higher, lowest⟩ := value_of_concat_spec front (last c List.mem_cons_self)
      rw [List.length_append, List.length_singleton, padded, higher, lowest, ih before]

theorem head_numeral {value : Nat} (leads : (numeral value).head? = some '0') :
    numeral value = ['0'] := by
  induction value using Nat.strongRecOn with
  | ind value ih =>
      by_cases small : value < 10
      · rw [numeral_of_lt small] at leads ⊢
        rw [Option.some.inj leads]
      · exfalso
        have large := Nat.le_of_not_lt small
        rw [numeral_of_ge large, List.head?_append_of_ne_nil _ (numeral_ne_nil _)] at leads
        -- The digits before the last one stand for a number that is not zero.
        have zero := value_of_numeral (value / 10)
        rw [ih (value / 10) (by omega) leads] at zero
        have nothing : value / 10 = 0 := zero.symm
        omega

/-- Digits without a leading zero are what their value is written as. -/
theorem numeral_value_of (all : ∀ c ∈ digits, c.isDigit = true) (nonempty : digits ≠ [])
    (leads : digits.head? = some '0' → digits = ['0']) : numeral (valueOf digits) = digits := by
  induction digits using List.reverseRecOn with
  | nil => exact absurd rfl nonempty
  | append_singleton front c ih =>
      obtain ⟨before, last⟩ := List.forall_mem_append.1 all
      have isDigit := last c List.mem_cons_self
      obtain ⟨higher, lowest⟩ := value_of_concat_spec front isDigit
      by_cases single : front = []
      · subst single
        have small : valueOf ([] ++ [c]) < 10 := value_of_lt last
        rw [Nat.mod_eq_of_lt small] at lowest
        rw [numeral_of_lt small, lowest, List.nil_append]
      · have notLed : front.head? ≠ some '0' := by
          intro zero
          rw [List.head?_append_of_ne_nil _ single] at leads
          rcases List.append_eq_singleton_iff.1 (leads zero) with ⟨empty, _⟩ | ⟨_, none⟩
          · exact single empty
          · cases none
        have written := ih before single (fun zero => absurd zero notLed)
        have positive : valueOf front ≠ 0 := by
          intro zero
          rw [zero, numeral_of_lt (by decide)] at written
          exact notLed (written ▸ rfl)
        rw [numeral_of_ge (by omega), higher, lowest, written]

theorem getLast_trim_zeros (digits : Text) : (trimZeros digits).getLast? ≠ some '0' := by
  intro ends
  have stop := head_dropWhile (· == '0') digits.reverse
  rw [trimZeros, List.getLast?_reverse] at ends
  exact absurd (stop '0' ends) (by decide)

end Decimal

namespace Numeral

open Decimal (valueOf numeral_value_of padded_value_of)

/-- No digit of the literal can be left out, and it is no share. -/
structure IsShortest (numeral : Numeral) : Prop where
  wellFormed : numeral.WellFormed
  plain : numeral.isPercent = false
  leads : numeral.whole.head? = some '0' → numeral.whole = ['0']
  ends : numeral.fraction.getLast? ≠ some '0'

/-- The number that the literal names, the percent sign left aside. -/
def magnitude (numeral : Numeral) : ℚ :=
  valueOf (numeral.whole ++ numeral.fraction) / 10 ^ numeral.fraction.length

theorem magnitude_eq_iff (first second : Numeral) :
    first.magnitude = second.magnitude ↔
      valueOf (first.whole ++ first.fraction) * 10 ^ second.fraction.length =
        valueOf (second.whole ++ second.fraction) * 10 ^ first.fraction.length := by
  have nonzero : ∀ places : Nat, (10 : ℚ) ^ places ≠ 0 := fun places => pow_ne_zero _ (by norm_num)
  rw [magnitude, magnitude, div_eq_div_iff (nonzero _) (nonzero _)]
  norm_cast

variable {first second : Numeral}

theorem IsShortest.not_dvd (shortest : first.IsShortest) (behind : first.fraction ≠ []) :
    ¬10 ∣ valueOf (first.whole ++ first.fraction) := by
  rcases List.eq_nil_or_concat first.fraction with empty | ⟨front, c, split⟩
  · exact absurd empty behind
  · have ends := shortest.ends
    have isDigit : c.isDigit = true := shortest.wellFormed.fraction_digits c (by simp [split])
    rw [split, List.concat_eq_append] at ends ⊢
    rw [← List.append_assoc]
    intro multiple
    have lowest := (Decimal.value_of_concat_spec (first.whole ++ front) isDigit).2
    rw [Nat.mod_eq_zero_of_dvd multiple] at lowest
    apply ends
    rw [List.getLast?_concat, ← lowest]
    rfl

theorem IsShortest.length_le (shortest : second.IsShortest)
    (same : first.magnitude = second.magnitude) :
    second.fraction.length ≤ first.fraction.length := by
  by_contra longer
  obtain ⟨extra, lengths⟩ := Nat.exists_eq_add_of_lt (Nat.lt_of_not_le longer)
  have positive : 0 < 10 ^ first.fraction.length := Nat.pow_pos (by decide)
  have power : 10 ^ second.fraction.length = 10 ^ (extra + 1) * 10 ^ first.fraction.length := by
    rw [lengths, Nat.add_assoc, Nat.pow_add, Nat.mul_comm]
  rw [magnitude_eq_iff, power, ← Nat.mul_assoc] at same
  have multiple := Nat.eq_of_mul_eq_mul_right positive same
  apply shortest.not_dvd (List.length_pos_iff.1 (by omega))
  rw [← multiple, Nat.pow_succ, ← Nat.mul_assoc]
  exact Nat.dvd_mul_left 10 _

/-- A number has one shortest literal at most. -/
theorem IsShortest.unique (shortest : first.IsShortest) (other : second.IsShortest)
    (same : first.magnitude = second.magnitude) : first = second := by
  have lengths : first.fraction.length = second.fraction.length :=
    le_antisymm (shortest.length_le same.symm) (other.length_le same)
  have values := (magnitude_eq_iff first second).1 same
  rw [lengths] at values
  have equal := Nat.eq_of_mul_eq_mul_right (Nat.pow_pos (by decide)) values
  obtain ⟨wholes, fractions⟩ := Decimal.value_of_append_inj shortest.wellFormed.fraction_digits
    other.wellFormed.fraction_digits lengths equal
  have whole : first.whole = second.whole := by
    rw [← numeral_value_of shortest.wellFormed.whole_digits shortest.wellFormed.whole_ne_nil
        shortest.leads, wholes,
      numeral_value_of other.wellFormed.whole_digits other.wellFormed.whole_ne_nil other.leads]
  have fraction : first.fraction = second.fraction := by
    rw [← padded_value_of shortest.wellFormed.fraction_digits, fractions, lengths,
      padded_value_of other.wellFormed.fraction_digits]
  calc
    first = ⟨first.whole, first.fraction, first.isPercent⟩ := rfl
    _ = second := by rw [whole, fraction, shortest.plain, ← other.plain]

end Numeral

namespace Decimal

/-- The text is the canonical numeral of the number and has at most so many places behind the point.
-/
def IsNumeralOf (number : ℚ) (places : Nat) (text : Text) : Prop :=
  ∃ numeral : Numeral, numeral.IsShortest ∧ numeral.fraction.length ≤ places ∧
    numeral.magnitude = |number| ∧ text = (if number < 0 then ['-'] else []) ++ numeral.text

theorem IsNumeralOf.unique {number : ℚ} {places : Nat} {text other : Text}
    (first : IsNumeralOf number places text) (second : IsNumeralOf number places other) :
    text = other := by
  obtain ⟨numeral, shortest, _, magnitude, rfl⟩ := first
  obtain ⟨again, otherShortest, _, otherMagnitude, rfl⟩ := second
  rw [shortest.unique otherShortest (magnitude.trans otherMagnitude.symm)]

/-- A text is the numeral of one number at most. -/
theorem IsNumeralOf.number_unique {number other : ℚ} {places : Nat} {text : Text}
    (first : IsNumeralOf number places text) (second : IsNumeralOf other places text) :
    number = other := by
  obtain ⟨numeral, shortest, _, magnitude, written⟩ := first
  obtain ⟨again, otherShortest, _, otherMagnitude, rfl⟩ := second
  have split := Binary64.split_sign_text shortest.wellFormed shortest.plain (decide (number < 0))
  have otherSplit := Binary64.split_sign_text otherShortest.wellFormed otherShortest.plain
    (decide (other < 0))
  simp only [decide_eq_true_eq] at split otherSplit
  rw [← written, otherSplit, Prod.mk.injEq, decide_eq_decide] at split
  obtain ⟨sign, texts⟩ := split
  cases otherShortest.wellFormed.text_inj shortest.wellFormed texts
  rw [otherMagnitude] at magnitude
  rcases abs_eq_abs.1 magnitude with same | opposite
  · exact same.symm
  · have nonneg : ¬number < 0 := by
      intro below
      have otherBelow := sign.2 below
      linarith
    have otherNonneg : ¬other < 0 := fun below => nonneg (sign.1 below)
    linarith

theorem is_shortest_literal (count places : Nat) : (literal count places).IsShortest where
  wellFormed := well_formed_literal count places
  plain := rfl
  leads := head_numeral
  ends := getLast_trim_zeros _

theorem magnitude_literal (count places : Nat) :
    (literal count places).magnitude = count / 10 ^ places := by
  obtain ⟨shorter, value⟩ := value_of_literal count places
  have power : (10 : ℚ) ^ (literal count places).fraction.length ≠ 0 := pow_ne_zero _ (by norm_num)
  have exact : (count : ℚ) =
      valueOf ((literal count places).whole ++ (literal count places).fraction) *
        10 ^ (places - (literal count places).fraction.length) := by exact_mod_cast value.symm
  rw [Numeral.magnitude, div_eq_div_iff power (pow_ne_zero _ (by norm_num)), exact, mul_assoc,
    ← pow_add, Nat.sub_add_cancel shorter]

/-- A count of places before the point is written as the literal of a whole number. -/
theorem fixed_text_eq_literal (negative : Bool) (count : Nat) (places : Int) :
    fixedText negative count places =
      (if showsMinus negative count then ['-'] else []) ++
        (literal (count * 10 ^ (-places).toNat) places.toNat).text := by
  rcases Int.le_total 0 places with behind | before
  · have noHigherPlace : (-places).toNat = 0 := by omega
    rw [fixed_text_eq _ _ behind, noHigherPlace, Nat.pow_zero, Nat.mul_one]
  · have noFraction : places.toNat = 0 := by omega
    unfold fixedText showsMinus
    by_cases zero : count = 0
    · rw [zero, Nat.zero_mul, literal_zero]
      simp
    · have shown : (count != 0) = true := by simpa using zero
      rw [if_neg zero, noFraction, shown, Bool.and_true]
      simp [literal, padded, trimZeros, Numeral.text, Numeral.fractionText, Numeral.percentText]

section Count

variable (negative : Bool) (count : Nat) (places : Int)

def signedCount : Int :=
  if negative then -(count : Int) else count

theorem natAbs_signed_count : (signedCount negative count).natAbs = count := by
  unfold signedCount
  split
  · rw [Int.natAbs_neg, Int.natAbs_natCast]
  · rw [Int.natAbs_natCast]

theorem signed_count_neg_iff :
    signedCount negative count < 0 ↔ showsMinus negative count = true := by
  unfold signedCount showsMinus
  cases negative <;> simp [Nat.pos_iff_ne_zero]

theorem ten_zpow : (10 : ℚ) ^ places = 10 ^ places.toNat / 10 ^ (-places).toNat := by
  rcases Int.le_total 0 places with behind | before
  · lift places to ℕ using behind
    simp
  · have opposite : 0 ≤ -places := by omega
    obtain ⟨higher, same⟩ := Int.eq_ofNat_of_zero_le opposite
    have value : places = -(higher : Int) := by omega
    subst value
    simp

/-- A count of last places is written as the canonical numeral of the number that it comes to. -/
theorem is_numeral_of_fixed_text :
    IsNumeralOf (signedCount negative count * 10 ^ (-places)) places.toNat
      (fixedText negative count places) := by
  have last : (0 : ℚ) < 10 ^ (-places) := zpow_pos (by norm_num) _
  have magnitude : (literal (count * 10 ^ (-places).toNat) places.toNat).magnitude =
      |(signedCount negative count * 10 ^ (-places) : ℚ)| := by
    rw [magnitude_literal, abs_mul, abs_of_pos last, ten_zpow, neg_neg, ← Int.cast_abs,
      Int.abs_eq_natAbs, natAbs_signed_count]
    push_cast
    rw [mul_div_assoc]
  have sign : (signedCount negative count * 10 ^ (-places) : ℚ) < 0 ↔
      showsMinus negative count = true := by
    rw [← signed_count_neg_iff]
    constructor
    · intro below
      exact Int.cast_lt_zero.1 (neg_of_mul_neg_left below last.le)
    · intro below
      exact mul_neg_of_neg_of_pos (Int.cast_lt_zero.2 below) last
  refine ⟨_, is_shortest_literal _ _, (value_of_literal _ _).1, magnitude, ?_⟩
  rw [fixed_text_eq_literal, if_congr sign rfl rfl]

end Count

end Decimal

end Reckoner
