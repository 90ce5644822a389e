import Reckoner.Text.Basic

/-!
# Balanced parentheses

The parentheses of a text are balanced if none closes before it was opened and as many close as
open. Read from left to right, this depends on the number of those that are open and on nothing but
the parentheses, so any other characters can be left out.
-/

namespace Reckoner.Text

set_option autoImplicit false

/-- With so many parentheses open before the text, none closes in it without being open, and at its
end all are closed. -/
def Balanced (depth : Nat) (text : Text) : Prop :=
  (∀ front, front <+: text → front.count ')' ≤ depth + front.count '(') ∧
    depth + text.count '(' = text.count ')'

theorem balanced_nil (depth : Nat) : Balanced depth [] ↔ depth = 0 := by
  simp [Balanced]

theorem balanced_cons (depth : Nat) (c : Char) (rest : Text) :
    Balanced depth (c :: rest) ↔
      (∀ front, front <+: rest → (c :: front).count ')' ≤ depth + (c :: front).count '(') ∧
        depth + (c :: rest).count '(' = (c :: rest).count ')' := by
  apply and_congr_left
  intro _
  constructor
  · intro fronts front begins
    exact fronts (c :: front) ((List.prefix_cons_inj c).2 begins)
  · intro fronts front begins
    rcases List.prefix_cons_iff.1 begins with rfl | ⟨shorter, rfl, inside⟩
    · simp
    · exact fronts shorter inside

theorem balanced_opening (depth : Nat) (rest : Text) :
    Balanced depth ('(' :: rest) ↔ Balanced (depth + 1) rest := by
  rw [balanced_cons]
  simp [Balanced, Nat.add_comm, Nat.add_left_comm]

theorem not_balanced_closing (rest : Text) : ¬Balanced 0 (')' :: rest) := by
  rw [balanced_cons]
  rintro ⟨fronts, _⟩
  simpa using fronts [] List.nil_prefix

theorem balanced_closing (depth : Nat) (rest : Text) :
    Balanced (depth + 1) (')' :: rest) ↔ Balanced depth rest := by
  rw [balanced_cons]
  simp [Balanced, Nat.add_right_comm]

theorem balanced_other {c : Char} (other : c ≠ '(' ∧ c ≠ ')') (depth : Nat) (rest : Text) :
    Balanced depth (c :: rest) ↔ Balanced depth rest := by
  rw [balanced_cons]
  simp [Balanced, other]

theorem ne_parenthesis {test : Char → Bool} (opening : test '(' = false)
    (closing : test ')' = false) {c : Char} (passes : test c = true) : c ≠ '(' ∧ c ≠ ')' := by
  constructor
  · rintro rfl
    rw [opening] at passes
    contradiction
  · rintro rfl
    rw [closing] at passes
    contradiction

theorem balanced_append_others {front : Text} (others : ∀ c ∈ front, c ≠ '(' ∧ c ≠ ')')
    (depth : Nat) (rest : Text) : Balanced depth (front ++ rest) ↔ Balanced depth rest := by
  induction front with
  | nil => rfl
  | cons c front ih =>
      rw [List.cons_append, balanced_other (others c List.mem_cons_self)]
      exact ih fun other member => others other (List.mem_cons_of_mem _ member)

theorem balanced_dropWhile {test : Char → Bool} (apart : ∀ c, test c = true → c ≠ '(' ∧ c ≠ ')')
    (depth : Nat) (rest : Text) : Balanced depth (rest.dropWhile test) ↔ Balanced depth rest := by
  have taken : ∀ c ∈ rest.takeWhile test, c ≠ '(' ∧ c ≠ ')' := by
    intro c member
    exact apart c (List.all_eq_true.1 List.all_takeWhile c member)
  rw [← balanced_append_others taken depth, List.takeWhile_append_dropWhile]

end Reckoner.Text
