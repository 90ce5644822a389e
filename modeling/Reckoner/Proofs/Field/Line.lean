import Mathlib.Data.List.DropRight
import Reckoner.Field.Edit
import Reckoner.Proofs.Token.Literal

/-!
# The line that a caret is in

A field with a caret in it is what stands before the line of the caret, that line, and what stands
behind it. The line is what is found between the bounds, and another line in its place is found
there again from the caret at its end.
-/

namespace Reckoner.Field

set_option autoImplicit false

/-- Of the three parts of a field the middle one is the line with the caret. -/
structure IsLineAt (before line behind : Text) (caret : Nat) : Prop where
  opens : ∀ c ∈ before.getLast?, isInLine c = false
  inLine : ∀ c ∈ line, isInLine c = true
  closes : ∀ c ∈ behind.head?, isInLine c = false
  lower : before.length ≤ caret
  upper : caret ≤ before.length + line.length

theorem exists_is_line_at {value : Text} {caret : Nat} (inside : caret ≤ value.length) :
    ∃ before line behind, value = before ++ (line ++ behind) ∧
      IsLineAt before line behind caret := by
  let front := value.take caret
  let rest := value.drop caret
  have front_parts : front.rdropWhile isInLine ++ front.rtakeWhile isInLine = front :=
    List.rdropWhile_append_rtakeWhile
  have rest_parts : rest.takeWhile isInLine ++ rest.dropWhile isInLine = rest :=
    List.takeWhile_append_dropWhile
  have reached : (front.rdropWhile isInLine).length + (front.rtakeWhile isInLine).length =
      caret := by
    rw [← List.length_append, front_parts, List.length_take, Nat.min_eq_left inside]
  refine ⟨front.rdropWhile isInLine, front.rtakeWhile isInLine ++ rest.takeWhile isInLine,
    rest.dropWhile isInLine, ?_, ?_⟩
  · rw [List.append_assoc, rest_parts, ← List.append_assoc, front_parts]
    exact (List.take_append_drop caret value).symm
  · constructor
    · intro c member
      rw [List.rdropWhile, List.getLast?_reverse] at member
      exact head_dropWhile isInLine front.reverse c member
    · intro c member
      rcases List.mem_append.1 member with earlier | later
      · exact List.mem_rtakeWhile_imp earlier
      · exact List.mem_takeWhile_imp later
    · exact head_dropWhile isInLine rest
    · omega
    · rw [List.length_append]
      omega

namespace IsLineAt

section Bounds

variable {before line behind : Text} {caret : Nat} (found : IsLineAt before line behind caret)

include found

theorem caret_in_range_eq :
    caretInRange (before ++ (line ++ behind)) (caret : Int) = caret := by
  have upper := found.upper
  unfold caretInRange
  rw [List.length_append, List.length_append]
  omega

theorem line_stop_eq :
    lineStop (before ++ (line ++ behind)) (caret : Int) = before.length + line.length := by
  have lower := found.lower
  have upper := found.upper
  have rest : (before ++ (line ++ behind)).drop caret =
      line.drop (caret - before.length) ++ behind := by
    rw [List.drop_append, List.drop_of_length_le lower, List.nil_append, List.drop_append,
      show caret - before.length - line.length = 0 by omega, List.drop_zero]
  have inside : ∀ c ∈ line.drop (caret - before.length), isInLine c = true :=
    fun c member => found.inLine c (List.mem_of_mem_drop member)
  unfold lineStop
  rw [found.caret_in_range_eq]
  dsimp only
  rw [rest, takeWhile_append_of_stop inside found.closes, List.length_drop]
  omega

theorem line_start_eq (entered : line ≠ [] ∨ 0 < caret) :
    lineStart (before ++ (line ++ behind)) (caret : Int) = before.length := by
  have lower := found.lower
  have upper := found.upper
  -- at the beginning of the field one character is looked at, and the line has one
  obtain ⟨count, counted, first, last⟩ : ∃ count, ((caret : Int) - 1).toNat + 1 = count ∧
      before.length ≤ count ∧ count ≤ before.length + line.length := by
    refine ⟨_, rfl, by omega, ?_⟩
    rcases entered with nonempty | positive
    · have := List.length_pos_iff.2 nonempty
      omega
    · omega
  have front : (before ++ (line ++ behind)).take count =
      before ++ line.take (count - before.length) := by
    rw [List.take_append, List.take_of_length_le first,
      List.take_append_of_le_length (by omega)]
  have inside : ∀ c ∈ (line.take (count - before.length)).reverse, isInLine c = true := by
    intro c member
    exact found.inLine c (List.mem_of_mem_take (List.mem_reverse.1 member))
  have stop : ∀ c ∈ before.reverse.head?, isInLine c = false := by
    rw [List.head?_reverse]
    exact found.opens
  unfold lineStart
  rw [counted, front]
  dsimp only
  rw [List.reverse_append, takeWhile_append_of_stop inside stop, List.length_reverse,
    List.length_append, Nat.add_sub_cancel]

theorem line_bounds_eq (entered : line ≠ [] ∨ 0 < caret) :
    lineBounds (before ++ (line ++ behind)) (caret : Int) =
      ⟨before.length, before.length + line.length⟩ := by
  rw [lineBounds, found.line_start_eq entered, found.line_stop_eq]

/-- What is found between the bounds is the line. In front of a line break at the beginning of the
field the bounds are the wrong way round, and nothing is found, as the line there is empty. -/
theorem between_eq :
    between (before ++ (line ++ behind))
      (lineBounds (before ++ (line ++ behind)) (caret : Int)) = line := by
  by_cases entered : line ≠ [] ∨ 0 < caret
  · rw [found.line_bounds_eq entered, between, ← List.append_assoc, ← List.length_append,
      List.take_left, List.drop_left]
  · simp only [not_or, not_not, Nat.not_lt, Nat.le_zero] at entered
    obtain ⟨rfl, rfl⟩ := entered
    have lower := found.lower
    rw [between, lineBounds, found.line_stop_eq, List.length_nil,
      Nat.le_zero.1 lower, List.take_zero, List.drop_nil]

/-- Another line in the place of the line, with the caret at its end. -/
theorem replaced {other : Text} (fits : ∀ c ∈ other, isInLine c = true) :
    IsLineAt before other behind (before.length + other.length) where
  opens := found.opens
  inLine := fits
  closes := found.closes
  lower := Nat.le_add_right _ _
  upper := Nat.le_refl _

end Bounds

end IsLineAt

/-- Only the line between the bounds is replaced. -/
theorem Edit.replacing_line (before line behind other : Text) :
    Edit.replacing (before ++ (line ++ behind)) ⟨before.length, before.length + line.length⟩ other =
      ⟨before ++ (other ++ behind), before.length + other.length, other⟩ := by
  have dropped : (before ++ (line ++ behind)).drop (before.length + line.length) = behind := by
    rw [← List.append_assoc, ← List.length_append, List.drop_left]
  rw [Edit.replacing, List.take_left, dropped, List.length_append, List.append_assoc]

end Reckoner.Field
