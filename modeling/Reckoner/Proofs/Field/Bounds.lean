import Mathlib.Logic.ExistsUnique
import Reckoner.Proofs.Field.Line

/-!
# What the bounds of a line enclose

Around a caret there is one longest piece of the field without a line break, and the bounds of its
line enclose it, empty lines and the ends of the field included. There is one exception: at the
beginning of a field that opens with a line break the first character counts as before the caret, so
the line is taken to begin behind that break and to end in front of it.
-/

namespace Reckoner.Field

set_option autoImplicit false

/-- The bounds lie around the caret, no line break stands between them, and beyond each of them is
one or the end of the field. -/
structure LineBounds.Enclose (bounds : LineBounds) (value : Text) (caret : Nat) : Prop where
  before : bounds.start ≤ caret
  behind : caret ≤ bounds.stop
  inside : bounds.stop ≤ value.length
  unbroken : '\n' ∉ between value bounds
  opens : bounds.start = 0 ∨ value[bounds.start - 1]? = some '\n'
  closes : bounds.stop = value.length ∨ value[bounds.stop]? = some '\n'

def BeforeFirstBreak (value : Text) (caret : Nat) : Prop :=
  caret = 0 ∧ value.head? = some '\n'

theorem is_in_line_eq_false_iff {c : Char} : isInLine c = false ↔ c = '\n' := by
  simp [isInLine]

section Unique

variable {value : Text} {caret : Nat} {bounds other : LineBounds}

theorem mem_between {position : Nat} {c : Char} (found : value[position]? = some c)
    (above : bounds.start ≤ position) (below : position < bounds.stop) :
    c ∈ between value bounds := by
  apply List.mem_of_getElem? (i := position - bounds.start)
  rw [between, List.getElem?_drop, Nat.add_sub_cancel' above, List.getElem?_take_of_lt below]
  exact found

/-- A line break that closes one span around the caret cannot stand inside another one. -/
theorem LineBounds.Enclose.start_le (encloses : bounds.Enclose value caret)
    (otherEncloses : other.Enclose value caret) : other.start ≤ bounds.start := by
  by_contra later
  rcases otherEncloses.opens with first | broken
  · omega
  · apply encloses.unbroken
    have reached := otherEncloses.before
    have goesOn := encloses.behind
    exact mem_between broken (by omega) (by omega)

theorem LineBounds.Enclose.stop_le (encloses : bounds.Enclose value caret)
    (otherEncloses : other.Enclose value caret) : bounds.stop ≤ other.stop := by
  by_contra earlier
  rcases otherEncloses.closes with last | broken
  · have inside := encloses.inside
    omega
  · apply encloses.unbroken
    have reached := otherEncloses.behind
    have begun := encloses.before
    exact mem_between broken (by omega) (by omega)

theorem LineBounds.Enclose.unique (encloses : bounds.Enclose value caret)
    (otherEncloses : other.Enclose value caret) : other = bounds := by
  have starts := Nat.le_antisymm (encloses.start_le otherEncloses) (otherEncloses.start_le encloses)
  have stops := Nat.le_antisymm (otherEncloses.stop_le encloses) (encloses.stop_le otherEncloses)
  cases bounds
  cases other
  exact congrArg₂ LineBounds.mk starts stops

end Unique

namespace IsLineAt

variable {before line behind : Text} {caret : Nat}

/-- The bounds of a line enclose it. -/
theorem enclose (found : IsLineAt before line behind caret) :
    LineBounds.Enclose ⟨before.length, before.length + line.length⟩ (before ++ (line ++ behind))
      caret where
  before := found.lower
  behind := found.upper
  inside := by
    simp only [List.length_append]
    omega
  unbroken := by
    rw [between, ← List.append_assoc, ← List.length_append, List.take_left, List.drop_left]
    intro broken
    have inLine := found.inLine _ broken
    contradiction
  opens := by
    by_cases first : before = []
    · exact .inl (by rw [first]; rfl)
    · right
      have nonempty := List.length_pos_iff.2 first
      dsimp only
      rw [List.getElem?_append_left (by omega), ← List.getLast?_eq_getElem?,
        List.getLast?_eq_some_getLast first]
      exact congrArg some (is_in_line_eq_false_iff.1
        (found.opens _ (List.getLast?_eq_some_getLast first)))
  closes := by
    cases rest : behind with
    | nil => exact .inl (by rw [List.append_nil, List.length_append])
    | cons c others =>
        right
        have broken := found.closes c (by rw [rest]; rfl)
        rw [← List.append_assoc, List.getElem?_append_right (by rw [List.length_append]),
          List.length_append, Nat.sub_self, List.getElem?_cons_zero,
          is_in_line_eq_false_iff.1 broken]

/-- At the beginning of a field with an empty first line nothing stands before or in the line. -/
theorem eq_nil_of_not_entered (found : IsLineAt before line behind caret)
    (entered : ¬(line ≠ [] ∨ 0 < caret)) : caret = 0 ∧ before = [] ∧ line = [] := by
  simp only [not_or, not_not, Nat.not_lt, Nat.le_zero] at entered
  obtain ⟨empty, rfl⟩ := entered
  exact ⟨rfl, List.length_eq_zero_iff.1 (Nat.le_zero.1 found.lower), empty⟩

end IsLineAt

section Bounds

variable {value : Text} {caret : Nat}

theorem exists_enclose (inside : caret ≤ value.length) :
    ∃! bounds : LineBounds, bounds.Enclose value caret := by
  obtain ⟨before, line, behind, rfl, found⟩ := exists_is_line_at inside
  exact ⟨_, found.enclose, fun _ others => found.enclose.unique others⟩

/-- In front of a line break at the beginning the bounds are the wrong way round. -/
theorem line_bounds_of_first_break (first : BeforeFirstBreak value caret) :
    lineBounds value caret = ⟨1, 0⟩ := by
  obtain ⟨rfl, broken⟩ := first
  obtain ⟨rest, rfl⟩ := List.head?_eq_some_iff.1 broken
  simp [lineBounds, lineStart, lineStop, caretInRange, isInLine]

theorem line_bounds_enclose (inside : caret ≤ value.length)
    (other : ¬BeforeFirstBreak value caret) : (lineBounds value caret).Enclose value caret := by
  obtain ⟨before, line, behind, rfl, found⟩ := exists_is_line_at inside
  by_cases entered : line ≠ [] ∨ 0 < caret
  · rw [found.line_bounds_eq entered]
    exact found.enclose
  · obtain ⟨rfl, rfl, rfl⟩ := found.eq_nil_of_not_entered entered
    cases rest : behind with
    | nil => exact ⟨by decide, by decide, by decide, by decide, .inl rfl, .inl rfl⟩
    | cons c others =>
        have broken := found.closes c (by rw [rest]; rfl)
        rw [is_in_line_eq_false_iff.1 broken] at rest
        exact absurd ⟨rfl, by rw [rest]; rfl⟩ other

/-- Around each caret there is one longest piece without a line break, and the bounds of the line
enclose it unless the caret stands in front of a break that opens the field. -/
theorem bounds_enclose_line (inside : caret ≤ value.length) :
    (∃! bounds : LineBounds, bounds.Enclose value caret) ∧
    ((lineBounds value caret).Enclose value caret ↔ ¬BeforeFirstBreak value caret) ∧
    (BeforeFirstBreak value caret → lineBounds value caret = ⟨1, 0⟩) := by
  refine ⟨exists_enclose inside, ⟨?_, line_bounds_enclose inside⟩, line_bounds_of_first_break⟩
  intro encloses first
  have order := encloses.before
  rw [line_bounds_of_first_break first, first.1] at order
  contradiction

end Bounds

/-- The empty line between two breaks is found from the caret in it. -/
theorem bounds_enclose_empty_line :
    (lineBounds "a\n\nb".toList (2 : Nat)).Enclose "a\n\nb".toList 2 ∧
      lineBounds "a\n\nb".toList (2 : Nat) = ⟨2, 2⟩ := by
  have found := @bounds_enclose_line "a\n\nb".toList 2 (by decide)
  refine ⟨found.2.1.2 ?_, by decide⟩
  rintro ⟨second, _⟩
  contradiction

/-- In a field that is a single line break, the bounds at its beginning enclose nothing. -/
theorem not_enclose_before_first_break :
    ¬∀ (value : Text) (caret : Nat), caret ≤ value.length →
      (lineBounds value caret).Enclose value caret := by
  intro claimed
  have order := (claimed ['\n'] 0 (by decide)).before
  revert order
  decide

end Reckoner.Field
