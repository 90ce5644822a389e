import Reckoner.Field.Edit
import Reckoner.Proofs.Text.Trim

/-!
# Lines that ask for a result

A line that ends in a single blank asks for nothing. The answered line does, whatever its equation:
it is made of characters of the line, of spaces and equals signs, and of the result, behind which
one space stands.
-/

namespace Reckoner.Field

set_option autoImplicit false

theorem is_in_line_of_not_blank {c : Char} (marked : Text.isBlank c = false) :
    isInLine c = true := by
  unfold isInLine
  rw [bne_iff_ne]
  rintro rfl
  contradiction

/-- The text fits on a line, and its last character leaves a mark. -/
structure Fits (text : Text) : Prop where
  nonempty : text ≠ []
  inLine : ∀ c ∈ text, isInLine c = true
  marked : ∀ c ∈ text.getLast?, Text.isBlank c = false

namespace Equation

theorem of_reversed_head_eq_some {head : Text} {equation : Equation}
    (found : ofReversedHead? head = some equation) :
    equation.leftPart = (head.dropWhile isInSegment).reverse ∧
      equation.segment = (head.takeWhile isInSegment).reverse ∧
      equation.expression = Text.trim equation.segment ∧
      equation.expression.any Char.isDigit = true := by
  unfold ofReversedHead? at found
  dsimp only at found
  split at found
  · rename_i digit
    cases found
    exact ⟨rfl, rfl, rfl, digit⟩
  · contradiction

/-- A line that asks for a result ends in an equals sign with two blanks behind it. -/
theorem of_line_eq_some {line : Text} {equation : Equation} (found : ofLine? line = some equation) :
    ∃ (head : Text) (previous last : Char), line = head.reverse ++ ['=', previous, last] ∧
      Text.isBlank previous = true ∧ Text.isBlank last = true ∧
      ofReversedHead? (head.dropWhile Text.isBlank) = some equation := by
  unfold ofLine? at found
  split at found
  · rename_i last previous head reversed
    split at found
    · rename_i blanks
      obtain ⟨lastBlank, previousBlank⟩ := Bool.and_eq_true_iff.1 blanks
      refine ⟨head, previous, last, ?_, previousBlank, lastBlank, found⟩
      rw [← List.reverse_reverse line, reversed]
      simp
    · contradiction
  · contradiction

theorem ne_nil_of_equation {line : Text} {equation : Equation}
    (found : ofLine? line = some equation) : line ≠ [] := by
  rintro rfl
  contradiction

theorem any_digit_of_equation {line : Text} {equation : Equation}
    (found : ofLine? line = some equation) : equation.expression.any Char.isDigit = true := by
  obtain ⟨_, _, _, _, _, _, asked⟩ := of_line_eq_some found
  exact (of_reversed_head_eq_some asked).2.2.2

/-- Nothing is in the parts of an equation that is not on its line. -/
theorem mem_of_equation {line : Text} {equation : Equation} (found : ofLine? line = some equation)
    {c : Char} (member : c ∈ equation.leftPart ∨ c ∈ equation.expression) : c ∈ line := by
  obtain ⟨head, previous, last, rfl, _, _, asked⟩ := of_line_eq_some found
  obtain ⟨left, segment, trimmed, _⟩ := of_reversed_head_eq_some asked
  have inside : c ∈ head.dropWhile Text.isBlank := by
    rcases member with earlier | middle
    · rw [left] at earlier
      exact (List.dropWhile_suffix _).subset (List.mem_reverse.1 earlier)
    · rw [trimmed, segment] at middle
      exact (List.takeWhile_prefix _).subset (List.mem_reverse.1 (Text.mem_of_mem_trim middle))
  exact List.mem_append_left _ (List.mem_reverse.2 ((List.dropWhile_suffix _).subset inside))

/-- A single blank at the end asks for nothing, whatever stands before it. -/
theorem of_line_of_single_blank (front : Text) {c : Char} (marked : Text.isBlank c = false) :
    ofLine? (front ++ [c, ' ']) = none := by
  -- the last two characters are looked at from the end, and the second of them is no blank
  unfold ofLine?
  split
  · rename_i last previous head reversed
    obtain ⟨rfl, rfl, _⟩ : ' ' = last ∧ c = previous ∧ front.reverse = '=' :: head := by
      simpa using reversed
    rw [marked, Bool.and_false]
    rfl
  · rfl

theorem mem_settled {leftPart : Text} {c : Char} (member : c ∈ settled leftPart) :
    c ∈ leftPart ∨ c ∈ spacedEquals := by
  unfold settled at member
  split at member
  · rename_i before reversed
    rcases List.mem_append.1 member with earlier | sign
    · have inside := (List.dropWhile_suffix _).subset (List.mem_reverse.1 earlier)
      have ending : c ∈ leftPart.reverse.dropWhile Text.isBlank := by
        rw [reversed]
        exact List.mem_cons_of_mem _ inside
      exact .inl (List.mem_reverse.1 ((List.dropWhile_suffix _).subset ending))
    · exact .inr sign
  · exact .inl member

theorem is_in_line_spaced_equals {c : Char} (member : c ∈ spacedEquals) : isInLine c = true :=
  List.all_eq_true.1 (show spacedEquals.all isInLine = true from rfl) c member

/-- The answered line is a line if the line and the result are. -/
theorem is_in_line_answered {line : Text} {equation : Equation}
    (found : ofLine? line = some equation)
    (inLine : ∀ c ∈ line, isInLine c = true) {result : Text}
    (fits : ∀ c ∈ result, isInLine c = true) :
    ∀ c ∈ answered equation.leftPart equation.expression result, isInLine c = true := by
  intro c member
  unfold answered at member
  simp only [List.mem_append, List.mem_singleton] at member
  rcases member with (((left | middle) | sign) | shown) | rfl
  · rcases mem_settled left with kept | sign
    · exact inLine c (mem_of_equation found (.inl kept))
    · exact is_in_line_spaced_equals sign
  · exact inLine c (mem_of_equation found (.inr middle))
  · exact is_in_line_spaced_equals sign
  · exact fits c shown
  · rfl

/-- The answered line asks for nothing: one space stands behind its result. -/
theorem of_line_answered (leftPart expression : Text) {result : Text} (fits : Fits result) :
    ofLine? (answered leftPart expression result) = none := by
  rcases List.eq_nil_or_concat result with rfl | ⟨front, c, rfl⟩
  · exact absurd rfl fits.nonempty
  · have marked : Text.isBlank c = false := fits.marked c (by simp)
    have ending : answered leftPart expression (front.concat c) =
        settled leftPart ++ expression ++ spacedEquals ++ front ++ [c, ' '] := by
      simp [answered]
    rw [ending]
    exact of_line_of_single_blank _ marked

end Equation

end Reckoner.Field
