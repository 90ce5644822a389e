import Reckoner.Proofs.Field.Edit
import Reckoner.Proofs.Field.Result

/-!
# Edits that settle

An edit leaves a field behind whose line at the caret is the announced one, and that line asks for
nothing. So a host whose changes are followed by edits is never left with a field to be edited.
-/

namespace Reckoner.Field

set_option autoImplicit false

section Settle

variable {settings : Settings} (behind : 0 ≤ settings.places)
  (failure : Fits settings.failureText)

include behind failure

/-- The caret of an edit is at the end of the announced line, which asks for nothing. -/
theorem Edit.settles {value : Text} {caret : Nat} {edit : Edit} (inside : caret ≤ value.length)
    (edited : ofField? settings value caret = .ok (some edit)) :
    edit.caret ≤ edit.value.length ∧
      between edit.value (lineBounds edit.value edit.caret) = edit.announcement ∧
      ofField? settings edit.value edit.caret = .ok none := by
  obtain ⟨before, line, rest, rfl, found⟩ := exists_is_line_at inside
  obtain ⟨equation, result, asked, run, rfl⟩ := of_field_eq_some.1 edited
  rw [found.between_eq] at asked
  have fits := fits_text_of behind failure (Equation.any_digit_of_equation asked) run
  have after := found.replaced (Equation.is_in_line_answered asked found.inLine fits.inLine)
  rw [found.line_bounds_eq (.inl (Equation.ne_nil_of_equation asked)), replacing_line]
  refine ⟨?_, after.between_eq, ?_⟩
  · simp
  · apply of_field_of_none
    rw [after.between_eq]
    exact Equation.of_line_answered _ _ fits

end Settle

namespace Host

def Settled (settings : Settings) (host : Host) : Prop :=
  host.caret ≤ host.value.length ∧ Edit.ofField? settings host.value host.caret = .ok none

theorem caret_changed {host : Host} (inside : host.caret ≤ host.value.length) (change : Change) :
    (host.changed change).caret ≤ (host.changed change).value.length := by
  cases change with
  | insert text =>
      simp only [changed, List.length_append, List.length_take]
      omega
  | backspace count =>
      simp only [changed, List.length_append, List.length_take]
      omega
  | moveTo caret => exact Nat.min_le_left _ _

section Run

variable {settings : Settings} (behind : 0 ≤ settings.places) (bounded : settings.places ≤ 91)
  (failure : Fits settings.failureText)

include behind bounded failure

theorem step_settled {host : Host} (inside : host.caret ≤ host.value.length) (change : Change) :
    ∃ reached, step settings host change = .ok reached ∧ Settled settings reached.1 := by
  have within := caret_changed inside change
  obtain ⟨outcome, run⟩ : ∃ outcome, Edit.ofField? settings (host.changed change).value
      (host.changed change).caret = .ok outcome :=
    Edit.of_field_of_bounded behind bounded
  unfold step
  dsimp only
  rw [run]
  cases outcome with
  | none => exact ⟨_, rfl, within, run⟩
  | some edit =>
      obtain ⟨place, _, quiet⟩ := Edit.settles behind failure within run
      exact ⟨_, rfl, place, quiet⟩

/-- Whatever is changed, and however often, each change leaves a settled field behind. -/
theorem run_settled {host : Host} (inside : host.caret ≤ host.value.length)
    (changes : List Change) :
    ∃ reached, run settings host changes = .ok reached ∧
      reached.length = changes.length ∧ ∀ state ∈ reached, Settled settings state.1 := by
  -- each change may leave another field behind, but never with the caret outside of it
  induction changes generalizing host with
  | nil => exact ⟨[], rfl, rfl, nofun⟩
  | cons change rest ih =>
      obtain ⟨next, stepped, settled⟩ := step_settled behind bounded failure inside change
      obtain ⟨reached, ran, length, others⟩ := ih settled.1
      refine ⟨next :: reached, ?_, ?_, ?_⟩
      · rw [run, stepped]
        change (run settings next.1 rest).map _ = _
        rw [ran]
        rfl
      · rw [List.length_cons, List.length_cons, length]
      · intro state member
        rcases List.mem_cons.1 member with rfl | later
        · exact settled
        · exact others state later

end Run

/-- An edited field is not edited again, nor is any field that a host is left with after a change.
-/
theorem edited_field_stays {settings : Settings} {value : Text} {caret : Nat}
    (behind : 0 ≤ settings.places) (bounded : settings.places ≤ 91)
    (failure : Fits settings.failureText) (inside : caret ≤ value.length) :
    (∀ edit, Edit.ofField? settings value caret = .ok (some edit) →
      edit.caret ≤ edit.value.length ∧
        between edit.value (lineBounds edit.value edit.caret) = edit.announcement ∧
        Edit.ofField? settings edit.value edit.caret = .ok none) ∧
    ∀ changes, ∃ reached, run settings ⟨value, caret⟩ changes = .ok reached ∧
      reached.length = changes.length ∧ ∀ state ∈ reached, Settled settings state.1 := by
  constructor
  · intro edit edited
    exact Edit.settles behind failure inside edited
  · intro changes
    exact run_settled behind bounded failure inside changes

/-- A line between others, whose result is chained on and then cut off again. -/
theorem product_line_stays :
    Edit.ofField? {} "sum\n2 kg * 3 =  \nend".toList 16 =
        .ok (some ⟨"sum\n2 kg * 3 = 6 kg \nend".toList, 20, "2 kg * 3 = 6 kg ".toList⟩) ∧
      Edit.ofField? {} "sum\n2 kg * 3 = 6 kg \nend".toList 20 = .ok none ∧
      ∃ reached, run {} ⟨"sum\n2 kg * 3 =  \nend".toList, 16⟩
          [.insert "=  ".toList, .backspace 3, .moveTo 0] = .ok reached ∧
        reached.length = 3 ∧ ∀ state ∈ reached, Settled {} state.1 := by
  have edited : Edit.ofField? {} "sum\n2 kg * 3 =  \nend".toList 16 =
      .ok (some ⟨"sum\n2 kg * 3 = 6 kg \nend".toList, 20, "2 kg * 3 = 6 kg ".toList⟩) := by
    decide +kernel
  obtain ⟨settles, runs⟩ := @edited_field_stays {} "sum\n2 kg * 3 =  \nend".toList 16
    (by decide) (by decide) fits_failure_text (by decide)
  exact ⟨edited, (settles _ edited).2.2, runs _⟩

end Host

end Reckoner.Field
