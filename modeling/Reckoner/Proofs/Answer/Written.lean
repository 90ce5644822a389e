import Reckoner.Proofs.Answer.Outcome
import Reckoner.Proofs.Decimal.Integer
import Reckoner.Proofs.Expression.Division
import Reckoner.Proofs.Expression.Evaluation
import Reckoner.Proofs.Expression.Integer

/-!
# Answering a written expression

However an expression is written, it is answered with the value of its tree. Two kinds of
expressions have an answer that is known without rounding anything: those that come to an integer,
and those that divide by zero somewhere.
-/

namespace Reckoner

set_option autoImplicit false

namespace Expression

theorem exists_figure_of_derives {level : Level} {tree : Tree} {terminals : List Terminal}
    (derived : Derives level tree terminals) : ∃ figure, .figure figure ∈ terminals := by
  induction derived with
  | figure figure => exact ⟨figure, List.mem_singleton_self _⟩
  | signed _ _ ih =>
      obtain ⟨figure, member⟩ := ih
      exact ⟨figure, List.mem_cons_of_mem _ member⟩
  | group _ ih =>
      obtain ⟨figure, member⟩ := ih
      exact ⟨figure, List.mem_cons_of_mem _ (List.mem_append_left _ member)⟩
  | single _ ih => exact ih
  | combined _ _ _ ihLeft _ =>
      obtain ⟨figure, member⟩ := ihLeft
      exact ⟨figure, List.mem_append_left _ member⟩

theorem any_digit_of_spelling {figure : Figure} {word : Text}
    (spelled : Spelling (.figure figure) word) : word.any Char.isDigit = true := by
  cases spelled with
  | literal wellFormed =>
      obtain ⟨c, rest, same, digit⟩ := text_eq_cons wellFormed
      rw [same, List.any_cons, digit, Bool.true_or]

theorem any_digit_of_figure {terminals : List Terminal} {source : Text} {figure : Figure}
    (written : Writing terminals source) (member : .figure figure ∈ terminals) :
    source.any Char.isDigit = true := by
  induction written with
  | done => contradiction
  | next _ spelled _ ih =>
      rw [List.any_append, List.any_append]
      rcases List.mem_cons.1 member with rfl | later
      · simp [any_digit_of_spelling spelled]
      · simp [ih later]

end Expression

namespace Answer

open Expression (Derives Spelling Terminal Tree Writing)
open Extraction (arithmetic findUnit tokensOf)

section Written

variable {settings : Settings} {tree : Tree} {terminals : List Terminal} {source : Text}
  (derived : Derives .sum tree terminals) (written : Writing terminals source)

include derived written

theorem any_digit_of_writing : source.any Char.isDigit = true := by
  obtain ⟨figure, member⟩ := Expression.exists_figure_of_derives derived
  exact Expression.any_digit_of_figure written member

theorem evaluate_arithmetic_of_writing :
    Expression.evaluate (arithmetic (tokensOf source)) = .ok tree.value := by
  obtain ⟨normalized, read⟩ := Expression.tokens_of_writing derived written
  rw [Extraction.evaluate_of_strict normalized read (any_digit_of_writing derived written)]
  exact Expression.evaluate_of_writing derived written

theorem find_unit_of_writing : findUnit (tokensOf source) = none := by
  obtain ⟨normalized, read⟩ := Expression.tokens_of_writing derived written
  exact Extraction.find_unit_of_strict normalized read

theorem text_of_writing {digits : Text} (short : (source.length : Int) ≤ settings.inputLimit)
    (shown : Decimal.fixed tree.value settings.places = .ok digits) :
    textOf settings source = .ok digits := by
  have figured := any_digit_of_writing derived written
  have run := evaluate_arithmetic_of_writing derived written
  rw [textOf, of_text_of_written short figured run shown, find_unit_of_writing derived written]
  rfl

theorem fails_of_writing (short : (source.length : Int) ≤ settings.inputLimit)
    (other : tree.value.isFinite = false) :
    ∃ answer, ofText settings source = .ok answer ∧ answer.FailsWith "NON_FINITE_RESULT" := by
  have figured := any_digit_of_writing derived written
  have run := evaluate_arithmetic_of_writing derived written
  rw [of_text_of_unwritten short figured run (Decimal.fixed_of_not_finite other settings.places)]
  exact ⟨_, rfl, rfl, rfl⟩

end Written

section Exact

variable {settings : Settings} {tree : Tree} {terminals : List Terminal} {source : Text}

/-- An expression of integers is answered with the numeral of the integer that it comes to. -/
theorem integer_arithmetic_is_exact {integer : Int} (derived : Derives .sum tree terminals)
    (written : Writing terminals source) (comes : tree.ComesTo integer)
    (short : (source.length : Int) ≤ settings.inputLimit) (behind : 0 ≤ settings.places)
    (bounded : settings.places ≤ 91) :
    textOf settings source = .ok (Decimal.integerNumeral integer) := by
  apply text_of_writing derived written short
  exact Decimal.fixed_integer comes.is_integer behind bounded

/-- The greatest of the integers is reached and left again, with a sign in front of a group, a sign
behind an operator, the capital X and blanks in some places only. -/
theorem integers_up_to_the_greatest :
    textOf { places := 91 } "-(2 X 4503599627370496 )- -1".toList =
      .ok "-9007199254740991".toList := by
  have two := Derives.figure (.ofNumeral ⟨['2'], [], false⟩)
  have half := Derives.figure (.ofNumeral ⟨"4503599627370496".toList, [], false⟩)
  have one := Derives.figure (.ofNumeral ⟨['1'], [], false⟩)
  have group := Derives.group (.single (.combined .times (.single two) half))
  have derived : Derives .sum _ _ := .combined .minus
    (.single (.single (.signed .minus group))) (.single (.signed .minus one))
  have spelledTwo := Spelling.literal (show Numeral.WellFormed ⟨['2'], [], false⟩ by decide)
  have spelledHalf := Spelling.literal
    (show Numeral.WellFormed ⟨"4503599627370496".toList, [], false⟩ by decide +kernel)
  have spelledOne := Spelling.literal (show Numeral.WellFormed ⟨['1'], [], false⟩ by decide)
  have ending : Writing [] [] := .done (by simp)
  have subtrahend := Writing.directly (.operator .minus)
    (.spaced (.sign .minus) (.directly spelledOne ending))
  have product := Writing.directly spelledTwo
    (.spaced .timesSign (.spaced spelledHalf (.spaced .closing subtrahend)))
  have written : Writing _ "-(2 X 4503599627370496 )- -1".toList :=
    .directly (.sign .minus) (.directly .opening product)
  have comesTwo : Tree.ComesTo (.leaf (.ofNumeral ⟨['2'], [], false⟩)) 2 := .literal (by decide)
  have comesHalf : Tree.ComesTo (.leaf (.ofNumeral ⟨"4503599627370496".toList, [], false⟩))
      4503599627370496 := .literal (by decide +kernel)
  have comesOne : Tree.ComesTo (.leaf (.ofNumeral ⟨['1'], [], false⟩)) 1 := .literal (by decide)
  have comes := Tree.ComesTo.difference (.minus (comesTwo.product comesHalf (by decide)))
    comesOne.minus (by decide)
  rw [integer_arithmetic_is_exact derived written comes (by decide) (by decide) (by decide)]
  decide +kernel

/-- One division by zero, however deep, leaves an expression that is accepted without a number, and
its answer is a failure. -/
theorem division_by_zero_invalidates (derived : Derives .sum tree terminals)
    (written : Writing terminals source) (divides : tree.DividesByZero) :
    Expression.evaluate source = .ok .nan ∧ Expression.validate source = .ok () ∧
      ((source.length : Int) ≤ settings.inputLimit →
        ∃ answer, ofText settings source = .ok answer ∧
          answer.FailsWith "NON_FINITE_RESULT") := by
  have undefined := divides.value_eq_nan
  have run := Expression.evaluate_of_writing derived written
  rw [undefined] at run
  refine ⟨run, ?_, ?_⟩
  · rw [Expression.validate, run]
  · intro short
    apply fails_of_writing derived written short
    rw [undefined]
    rfl

/-- The divisor is a negative zero: the opposite of what cancels. Its quotient is a factor of what a
share is taken off. -/
theorem opposite_of_cancelled_difference_invalidates :
    Expression.evaluate "50% - 3 /-(5-5) X 2".toList = .ok .nan ∧
      Expression.validate "50% - 3 /-(5-5) X 2".toList = .ok () ∧
      ∃ answer, ofText {} "50% - 3 /-(5-5) X 2".toList = .ok answer ∧
        answer.FailsWith "NON_FINITE_RESULT" := by
  have half := Derives.figure (.ofNumeral ⟨['5', '0'], [], true⟩)
  have three := Derives.figure (.ofNumeral ⟨['3'], [], false⟩)
  have five := Derives.figure (.ofNumeral ⟨['5'], [], false⟩)
  have two := Derives.figure (.ofNumeral ⟨['2'], [], false⟩)
  have cancelled := Derives.group (.combined .minus (.single (.single five)) (.single five))
  have quotient := Derives.combined .divide (.single three) (.signed .minus cancelled)
  have derived : Derives .sum _ _ :=
    .combined .minus (.single (.single half)) (.combined .times quotient two)
  have spelledHalf := Spelling.literal (show Numeral.WellFormed ⟨['5', '0'], [], true⟩ by decide)
  have spelledThree := Spelling.literal (show Numeral.WellFormed ⟨['3'], [], false⟩ by decide)
  have spelledFive := Spelling.literal (show Numeral.WellFormed ⟨['5'], [], false⟩ by decide)
  have spelledTwo := Spelling.literal (show Numeral.WellFormed ⟨['2'], [], false⟩ by decide)
  have ending : Writing [] [] := .done (by simp)
  have factor := Writing.spaced .timesSign (.spaced spelledTwo ending)
  have difference := Writing.directly spelledFive (.directly (.operator .minus)
    (.directly spelledFive (.directly .closing factor)))
  have written : Writing _ "50% - 3 /-(5-5) X 2".toList :=
    .directly spelledHalf (.spaced (.operator .minus) (.spaced spelledThree
      (.spaced (.operator .divide) (.directly (.sign .minus) (.directly .opening difference)))))
  obtain ⟨run, accepted, fails⟩ := @division_by_zero_invalidates {} _ _ _ derived written
    (.right .minus _ (.left .times _ (.here (by decide +kernel))))
  exact ⟨run, accepted, fails (by decide)⟩

end Exact

end Answer

end Reckoner
