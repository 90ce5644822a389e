import Mathlib.Algebra.Group.Nat.Defs
import Mathlib.Data.List.TakeWhile
import Reckoner.Binary64.Reading
import Reckoner.Proofs.Token.Literal

/-!
# Reading literals as numbers

The reader of numbers takes a plain literal, under a minus sign or not, for the number of its digits
moved behind the point.
-/

namespace Reckoner.Binary64

set_option autoImplicit false

variable {numeral : Numeral}

theorem text_of_plain (plain : numeral.isPercent = false) :
    numeral.text = numeral.whole ++ Numeral.fractionText numeral.fraction := by
  rw [Numeral.text, plain]
  exact congrArg (numeral.whole ++ ·) (List.append_nil _)

theorem split_fraction_fraction_text (written : numeral.WellFormed) :
    splitFraction (Numeral.fractionText numeral.fraction) = (numeral.fraction, []) := by
  have digits := written.fraction_digits
  unfold Numeral.fractionText
  cases same : numeral.fraction with
  | nil => rfl
  | cons first others =>
      rw [same] at digits
      have taken := List.takeWhile_eq_self_iff.2 digits
      have dropped := List.dropWhile_eq_nil_iff.2 digits
      simp only [List.isEmpty_cons, Bool.false_eq_true, if_false, splitFraction, taken, dropped]

theorem of_scientific_fraction (negative : Bool) (digits places : Nat) :
    ofScientific negative digits (0 - places) =
      ofGrains negative (digits * grainsPerOne) (10 ^ places) := by
  have higher : (0 - (places : Int)).toNat = 0 := by omega
  have lower : (-(0 - (places : Int))).toNat = places := by omega
  rw [ofScientific, higher, lower, Nat.pow_eq, Nat.pow_eq, Nat.pow_zero, Nat.mul_one]

theorem of_digits_text (written : numeral.WellFormed) (plain : numeral.isPercent = false)
    (negative : Bool) :
    ofDigits? negative numeral.text =
      some (ofGrains negative
        (Decimal.valueOf (numeral.whole ++ numeral.fraction) * grainsPerOne)
        (10 ^ numeral.fraction.length)) := by
  have stop : ∀ c ∈ (Numeral.fractionText numeral.fraction).head?, c.isDigit = false := by
    intro c member
    unfold Numeral.fractionText at member
    split at member
    · cases member
    · cases Option.some.inj member
      rfl
  have taken := takeWhile_append_of_stop written.whole_digits stop
  have dropped := dropWhile_append_of_stop written.whole_digits stop
  have nonempty : ¬(numeral.whole ++ numeral.fraction).isEmpty = true := by
    simp [written.whole_ne_nil]
  rw [text_of_plain plain]
  unfold ofDigits?
  rw [taken, dropped, split_fraction_fraction_text written]
  dsimp only
  rw [if_neg nonempty, exponentOf?, Option.map_some, of_scientific_fraction]

theorem head_of_plain (written : numeral.WellFormed) (plain : numeral.isPercent = false) :
    ∃ c rest, numeral.text = c :: rest ∧ c.isDigit = true := by
  obtain ⟨c, rest, same⟩ := List.exists_cons_of_ne_nil written.whole_ne_nil
  refine ⟨c, rest ++ Numeral.fractionText numeral.fraction, ?_, ?_⟩
  · rw [text_of_plain plain, same, List.cons_append]
  · apply written.whole_digits
    rw [same]
    exact List.mem_cons_self

theorem split_sign_text (written : numeral.WellFormed) (plain : numeral.isPercent = false)
    (negative : Bool) :
    splitSign ((if negative then ['-'] else []) ++ numeral.text) = (negative, numeral.text) := by
  obtain ⟨c, rest, same, digit⟩ := head_of_plain written plain
  cases negative with
  | true => rfl
  | false =>
      have noMinus : c ≠ '-' := by
        rintro rfl
        contradiction
      have noPlus : c ≠ '+' := by
        rintro rfl
        contradiction
      simp [same, splitSign, noMinus, noPlus]

theorem small_letter_of_is_digit {c : Char} (digit : c.isDigit = true) :
    Text.smallLetter c = c := by
  have bounds := Text.toNat_of_is_digit digit
  have small : ¬('A' ≤ c ∧ c ≤ 'Z') := by
    rintro ⟨least, _⟩
    have above : 65 ≤ c.toNat := least
    omega
  rw [Text.smallLetter, if_neg small]

/-- A plain literal is read as the nearest number under its sign. -/
theorem of_text_text (written : numeral.WellFormed) (plain : numeral.isPercent = false)
    (negative : Bool) :
    ofText? ((if negative then ['-'] else []) ++ numeral.text) =
      some (ofGrains negative
        (Decimal.valueOf (numeral.whole ++ numeral.fraction) * grainsPerOne)
        (10 ^ numeral.fraction.length)) := by
  obtain ⟨c, rest, same, digit⟩ := head_of_plain written plain
  have read := of_digits_text written plain negative
  unfold ofText?
  rw [split_sign_text written plain]
  dsimp only
  -- A word begins with a letter.
  have word : numeral.text.map Text.smallLetter = c :: rest.map Text.smallLetter := by
    rw [same, List.map_cons, small_letter_of_is_digit digit]
  have named : ∀ {name : Text}, (name.head?.any Char.isDigit) = false →
      numeral.text.map Text.smallLetter ≠ name := by
    intro name letter equal
    rw [← equal, word] at letter
    rw [List.head?_cons, Option.any_some, digit] at letter
    contradiction
  rw [if_neg (named rfl), if_neg (not_or.2 ⟨named rfl, named rfl⟩), read]

end Reckoner.Binary64
