import Mathlib.Algebra.Group.Nat.Defs
import Mathlib.Data.List.Induction
import Reckoner.Decimal.Digits

/-!
# Reading numerals back

The numeral of a number, padded or not, consists of digits and stands for the number. Leaving out
zeros at its end divides what it stands for by a power of ten, without a remainder.
-/

namespace Reckoner.Decimal

set_option autoImplicit false

theorem digit_spec :
    ∀ value < 10, (digit value).isDigit = true ∧ (digit value).toNat = 48 + value := by
  decide

theorem digit_mod_spec (value : Nat) :
    (digit (value % 10)).isDigit = true ∧ (digit (value % 10)).toNat = 48 + value % 10 :=
  digit_spec _ (Nat.mod_lt value (by decide))

theorem value_of_append_digit (digits : Text) (c : Char) :
    valueOf (digits ++ [c]) = 10 * valueOf digits + (c.toNat - 48) := by
  rw [valueOf, List.foldl_append]
  rfl

theorem value_of_append (digits others : Text) :
    valueOf (digits ++ others) = valueOf digits * 10 ^ others.length + valueOf others := by
  induction others using List.reverseRecOn with
  | nil => simp [valueOf]
  | append_singleton others c ih =>
      rw [← List.append_assoc, value_of_append_digit, ih, value_of_append_digit, List.length_append,
        List.length_singleton, Nat.pow_succ, Nat.mul_add, ← Nat.mul_assoc (valueOf digits)]
      omega

theorem value_of_zeros (count : Nat) : valueOf (List.replicate count '0') = 0 := by
  induction count with
  | zero => rfl
  | succ count ih => rw [List.replicate_succ', value_of_append_digit, ih]; rfl

theorem numeral_before_eq (value : Nat) (rest : Text) :
    numeralBefore value rest = numeral value ++ rest := by
  unfold numeral
  -- One digit moves in front of the text at each step, so the text varies in the induction.
  induction value using Nat.strongRecOn generalizing rest with
  | ind value ih =>
      by_cases small : value < 10
      · rw [numeralBefore, if_pos small, numeralBefore.eq_1 value [], if_pos small]
        rfl
      · have earlier := ih (value / 10) (by omega)
        rw [numeralBefore, if_neg small, numeralBefore.eq_1 value [], if_neg small,
          earlier (_ :: rest), earlier [_], List.append_assoc]
        rfl

theorem numeral_of_ge {value : Nat} (large : 10 ≤ value) :
    numeral value = numeral (value / 10) ++ [digit (value % 10)] := by
  unfold numeral
  rw [numeralBefore, if_neg (by omega), numeral_before_eq]
  rfl

theorem numeral_of_lt {value : Nat} (small : value < 10) : numeral value = [digit value] := by
  rw [numeral, numeralBefore, if_pos small]

theorem numeral_ne_nil (value : Nat) : numeral value ≠ [] := by
  by_cases small : value < 10
  · simp [numeral_of_lt small]
  · simp [numeral_of_ge (Nat.le_of_not_lt small)]

theorem is_digit_of_mem_numeral (value : Nat) : ∀ c ∈ numeral value, c.isDigit = true := by
  induction value using Nat.strongRecOn with
  | ind value ih =>
      intro c member
      by_cases small : value < 10
      · rw [numeral_of_lt small] at member
        cases List.mem_singleton.1 member
        exact (digit_spec value small).1
      · rw [numeral_of_ge (Nat.le_of_not_lt small)] at member
        rcases List.mem_append.1 member with member | member
        · exact ih (value / 10) (by omega) c member
        · cases List.mem_singleton.1 member
          exact (digit_mod_spec value).1

theorem value_of_numeral (value : Nat) : valueOf (numeral value) = value := by
  induction value using Nat.strongRecOn with
  | ind value ih =>
      by_cases small : value < 10
      · have single := value_of_append_digit [] (digit value)
        rw [List.nil_append, (digit_spec value small).2] at single
        rw [numeral_of_lt small, single]
        simp [valueOf]
      · rw [numeral_of_ge (Nat.le_of_not_lt small), value_of_append_digit,
          ih (value / 10) (by omega), (digit_mod_spec value).2]
        omega

theorem length_padded (width value : Nat) : (padded width value).length = width := by
  induction width generalizing value with
  | zero => rfl
  | succ width ih => rw [padded, List.length_append, ih]; rfl

theorem is_digit_of_mem_padded (width value : Nat) :
    ∀ c ∈ padded width value, c.isDigit = true := by
  induction width generalizing value with
  | zero => simp [padded]
  | succ width ih =>
      intro c member
      rw [padded] at member
      rcases List.mem_append.1 member with member | member
      · exact ih (value / 10) c member
      · cases List.mem_singleton.1 member
        exact (digit_mod_spec value).1

theorem value_of_padded (width value : Nat) (short : value < 10 ^ width) :
    valueOf (padded width value) = value := by
  induction width generalizing value with
  | zero =>
      have zero : value = 0 := by omega
      rw [padded, zero]
      rfl
  | succ width ih =>
      have shorter : value / 10 < 10 ^ width := by
        rw [Nat.pow_succ] at short
        omega
      rw [padded, value_of_append_digit, ih (value / 10) shorter, (digit_mod_spec value).2]
      omega

theorem padded_zero (width : Nat) : padded width 0 = List.replicate width '0' := by
  induction width with
  | zero => rfl
  | succ width ih =>
      rw [padded, ih, List.replicate_succ']
      rfl

theorem trim_zeros_append (digits : Text) :
    ∃ count, digits = trimZeros digits ++ List.replicate count '0' := by
  have split := List.takeWhile_append_dropWhile (p := (· == '0')) (l := digits.reverse)
  refine ⟨(digits.reverse.takeWhile (· == '0')).length, ?_⟩
  have zeros : digits.reverse.takeWhile (· == '0') =
      List.replicate (digits.reverse.takeWhile (· == '0')).length '0' := by
    rw [List.eq_replicate_iff]
    refine ⟨rfl, ?_⟩
    intro c member
    simpa using List.all_eq_true.1 List.all_takeWhile c member
  rw [trimZeros, ← List.reverse_replicate, ← zeros, ← List.reverse_append, split,
    List.reverse_reverse]

theorem trim_zeros_zeros (count : Nat) : trimZeros (List.replicate count '0') = [] := by
  rw [trimZeros, List.reverse_replicate, List.dropWhile_replicate]
  rfl

theorem is_digit_of_mem_trim_zeros {digits : Text} (all : ∀ c ∈ digits, c.isDigit = true) :
    ∀ c ∈ trimZeros digits, c.isDigit = true := by
  intro c member
  obtain ⟨count, split⟩ := trim_zeros_append digits
  apply all
  rw [split]
  exact List.mem_append_left _ member

/-- Without the zeros at its end, a run of digits stands for a number that goes into the original
one so many powers of ten times. -/
theorem value_of_trim_zeros (digits : Text) :
    (trimZeros digits).length ≤ digits.length ∧
      valueOf (trimZeros digits) * 10 ^ (digits.length - (trimZeros digits).length) =
        valueOf digits := by
  obtain ⟨count, split⟩ := trim_zeros_append digits
  generalize trimZeros digits = trimmed at split
  subst split
  rw [List.length_append, List.length_replicate, value_of_append, value_of_zeros,
    List.length_replicate, Nat.add_sub_cancel_left]
  exact ⟨Nat.le_add_right _ _, rfl⟩

end Reckoner.Decimal
