import Reckoner.Proofs.Field.Equation
import Reckoner.Proofs.Text.Class

/-!
# The form of a line that asks for a result

An equation is read off its line from the end. Here the line is described from its beginning: what
stands before the sign that asks, the blanks between the two, and the two blanks behind the sign.
What stands before the sign is cut behind its last equals sign, and the line asks for a result
exactly if there is a digit behind that cut. The parts of the equation, the blanks and the sign make
up the line again.
-/

namespace Reckoner.Field

set_option autoImplicit false

/-- The line ends in an equals sign with two blanks behind it. Before the sign stands a whole run of
blanks, and before that the head. -/
structure Asks (line head gap : Text) (previous last : Char) : Prop where
  joined : line = head ++ gap ++ ['=', previous, last]
  previous_blank : Text.isBlank previous = true
  last_blank : Text.isBlank last = true
  gap_blank : ∀ c ∈ gap, Text.isBlank c = true
  gap_whole : ∀ c ∈ head.getLast?, Text.isBlank c = false

/-- The text is cut behind its last equals sign. Without one, all of it is the segment. -/
structure IsCut (text left segment : Text) : Prop where
  joined : left ++ segment = text
  left_ends : left = [] ∨ left.getLast? = some '='
  no_equals : '=' ∉ segment

/-- The line ends as one that asks for a result, and there is a digit behind the last equals sign of
what stands before. -/
def HasForm (line : Text) : Prop :=
  ∃ head gap previous last, Asks line head gap previous last ∧
    ∃ left segment, IsCut head left segment ∧ ∃ c ∈ segment, c.isDigit = true

theorem is_in_segment_eq_true {c : Char} : Equation.isInSegment c = true ↔ c ≠ '=' :=
  bne_iff_ne

theorem any_is_digit_trim (text : Text) :
    (Text.trim text).any Char.isDigit = text.any Char.isDigit := by
  rw [Bool.eq_iff_iff, List.any_eq_true, List.any_eq_true]
  refine exists_congr fun c => and_congr_left fun digit => ?_
  exact Text.mem_trim (Text.is_blank_of_is_digit digit)

/-- Every list is parted where the test fails for the last time. -/
theorem exists_parted {Item : Type} (test : Item → Bool) (items : List Item) :
    ∃ front run, front ++ run = items ∧ (∀ item ∈ run, test item = true) ∧
      ∀ item ∈ front.getLast?, test item = false := by
  refine ⟨items.rdropWhile test, items.rtakeWhile test, List.rdropWhile_append_rtakeWhile,
    fun _ => List.mem_rtakeWhile_imp, ?_⟩
  rw [List.rdropWhile, List.getLast?_reverse]
  exact head_dropWhile test items.reverse

section Cut

variable {text left segment : Text}

theorem IsCut.in_segment (cut : IsCut text left segment) :
    ∀ c ∈ segment.reverse, Equation.isInSegment c = true := by
  intro c member
  rw [is_in_segment_eq_true]
  rintro rfl
  exact cut.no_equals (List.mem_reverse.1 member)

theorem IsCut.stop (cut : IsCut text left segment) :
    ∀ c ∈ left.reverse.head?, Equation.isInSegment c = false := by
  intro c first
  rw [List.head?_reverse] at first
  rcases cut.left_ends with rfl | ends
  · contradiction
  · cases ends.symm.trans first
    rfl

/-- Every text is cut behind its last equals sign. -/
theorem exists_is_cut (text : Text) : ∃ left segment, IsCut text left segment := by
  -- the segment is the longest end of the text without the sign
  obtain ⟨left, segment, joined, inside, stop⟩ := exists_parted Equation.isInSegment text
  refine ⟨left, segment, joined, ?_, fun member => is_in_segment_eq_true.1 (inside _ member) rfl⟩
  cases last : left.getLast? with
  | none => exact .inl (List.getLast?_eq_none_iff.1 last)
  | some c =>
      have sign := stop c last
      rw [← Bool.not_eq_true, is_in_segment_eq_true, not_not] at sign
      exact .inr (congrArg some sign)

/-- The equation of a text is its cut, if there is a digit in the segment. -/
theorem IsCut.of_reversed_head_eq (cut : IsCut text left segment) :
    Equation.ofReversedHead? text.reverse =
      if segment.any Char.isDigit then some ⟨left, segment, Text.trim segment⟩ else none := by
  rw [← cut.joined, List.reverse_append, Equation.ofReversedHead?,
    takeWhile_append_of_stop cut.in_segment cut.stop,
    dropWhile_append_of_stop cut.in_segment cut.stop]
  simp only [List.reverse_reverse, any_is_digit_trim]

theorem IsCut.getLast_segment (cut : IsCut text left segment) :
    ∀ c ∈ segment.getLast?, c ∈ text.getLast? := by
  intro c last
  rw [← cut.joined, List.getLast?_append, Option.mem_def.1 last]
  rfl

end Cut

section Form

variable {line head gap left segment : Text} {previous last : Char} {equation : Equation}

/-- The equation of a line is the one of its head. -/
theorem Asks.of_line_eq (asks : Asks line head gap previous last) :
    Equation.ofLine? line = Equation.ofReversedHead? head.reverse := by
  have reversed : line.reverse = last :: previous :: '=' :: (gap.reverse ++ head.reverse) := by
    simp [asks.joined]
  have trimmed : (gap.reverse ++ head.reverse).dropWhile Text.isBlank = head.reverse := by
    apply dropWhile_append_of_stop
    · exact fun c member => asks.gap_blank c (List.mem_reverse.1 member)
    · rw [List.head?_reverse]
      exact asks.gap_whole
  simp [Equation.ofLine?, reversed, asks.last_blank, asks.previous_blank, trimmed]

theorem exists_asks (found : Equation.ofLine? line = some equation) :
    ∃ head gap previous last, Asks line head gap previous last := by
  obtain ⟨reversed, previous, last, rfl, previousBlank, lastBlank, _⟩ :=
    Equation.of_line_eq_some found
  obtain ⟨head, gap, joined, blanks, whole⟩ := exists_parted Text.isBlank reversed.reverse
  exact ⟨head, gap, previous, last, by rw [joined], previousBlank, lastBlank, blanks, whole⟩

/-- A line that asks has an equation exactly if there is a digit in the segment of its head, and
then the equation is made of the two parts of the head. -/
theorem Asks.of_line_eq_some_iff (asks : Asks line head gap previous last)
    (cut : IsCut head left segment) :
    Equation.ofLine? line = some equation ↔ (∃ c ∈ segment, c.isDigit = true) ∧
      ⟨left, segment, Text.trim segment⟩ = equation := by
  rw [asks.of_line_eq, cut.of_reversed_head_eq, Option.ite_none_right_eq_some, List.any_eq_true,
    Option.some.injEq]

theorem has_form_iff : HasForm line ↔ ∃ equation, Equation.ofLine? line = some equation := by
  constructor
  · rintro ⟨head, gap, previous, last, asks, left, segment, cut, digit⟩
    exact ⟨_, (asks.of_line_eq_some_iff cut).2 ⟨digit, rfl⟩⟩
  · rintro ⟨equation, found⟩
    obtain ⟨head, gap, previous, last, asks⟩ := exists_asks found
    obtain ⟨left, segment, cut⟩ := exists_is_cut head
    exact ⟨head, gap, previous, last, asks, left, segment, cut,
      ((asks.of_line_eq_some_iff cut).1 found).1⟩

/-- The equation of a line that asks is the cut of its head. -/
theorem Asks.is_cut (asks : Asks line head gap previous last)
    (found : Equation.ofLine? line = some equation) :
    IsCut head equation.leftPart equation.segment ∧
      equation.expression = Text.trim equation.segment := by
  obtain ⟨left, segment, cut⟩ := exists_is_cut head
  obtain ⟨_, rfl⟩ := (asks.of_line_eq_some_iff cut).1 found
  exact ⟨cut, rfl⟩

end Form

/-- A line has an equation exactly if it has the form of one that asks for a result. The parts of
the equation are the cut of what stands before the blanks and the sign, so nothing of the line is
lost. -/
theorem equation_exactly_in_form (line : Text) :
    ((∃ equation, Equation.ofLine? line = some equation) ↔ HasForm line) ∧
    (∀ equation head gap previous last, Equation.ofLine? line = some equation →
      Asks line head gap previous last →
        equation.leftPart ++ equation.segment = head ∧
        (equation.leftPart = [] ∨ equation.leftPart.getLast? = some '=') ∧
        '=' ∉ equation.segment ∧
        (∀ c ∈ equation.segment.getLast?, Text.isBlank c = false) ∧
        equation.expression = Text.trim equation.segment ∧
        line = equation.leftPart ++ equation.segment ++ gap ++ ['=', previous, last]) ∧
    (¬HasForm line → Equation.ofLine? line = none) := by
  refine ⟨has_form_iff.symm, ?_, ?_⟩
  · intro equation head gap previous last found asks
    obtain ⟨cut, trimmed⟩ := asks.is_cut found
    refine ⟨cut.joined, cut.left_ends, cut.no_equals, ?_, trimmed, ?_⟩
    · exact fun c member => asks.gap_whole c (cut.getLast_segment c member)
    · rw [cut.joined]
      exact asks.joined
  · intro other
    rw [has_form_iff] at other
    exact Option.eq_none_iff_forall_ne_some.2 fun equation found => other ⟨equation, found⟩

/-- Signs side by side, with blanks of several kinds before and behind the one that asks. -/
theorem asked_behind_adjacent_signs :
    Asks "x== 1+2\t\u3000= \u00a0".toList "x== 1+2".toList ['\t', '\u3000'] ' ' '\u00a0' ∧
    Equation.ofLine? "x== 1+2\t\u3000= \u00a0".toList =
      some ⟨"x==".toList, " 1+2".toList, "1+2".toList⟩ ∧
    HasForm "x== 1+2\t\u3000= \u00a0".toList ∧
    "x==".toList ++ " 1+2".toList = "x== 1+2".toList ∧
    '=' ∉ " 1+2".toList := by
  have asks : Asks "x== 1+2\t\u3000= \u00a0".toList "x== 1+2".toList ['\t', '\u3000'] ' '
      '\u00a0' := {
    joined := by decide
    previous_blank := by decide
    last_blank := by decide
    gap_blank := forall_mem_of_all (by decide)
    gap_whole := by
      rintro c ⟨⟩
      rfl }
  have found : Equation.ofLine? "x== 1+2\t\u3000= \u00a0".toList =
      some ⟨"x==".toList, " 1+2".toList, "1+2".toList⟩ := by decide
  obtain ⟨form, parts, _⟩ := equation_exactly_in_form "x== 1+2\t\u3000= \u00a0".toList
  obtain ⟨whole, _, noEquals, _⟩ := parts _ _ _ _ _ found asks
  exact ⟨asks, found, form.1 ⟨_, found⟩, whole, noEquals⟩

end Reckoner.Field
