import Reckoner.Proofs.Expression.Failure
import Reckoner.Proofs.Text.Trim

/-!
# The normal form of a text

A text has a normal form exactly if all its characters are ones that expressions are typed with. The
normal form is its own, and it is cut into tokens just as the text is with its multiplication signs
written as `*`.
-/

namespace Reckoner.Expression

set_option autoImplicit false

/-- No blank stands at an end or next to another one, and multiplication is written as `*`. -/
structure IsNormal (text : Text) : Prop where
  start : ∀ c ∈ text.head?, Text.isBlank c = false
  stop : ∀ c ∈ text.getLast?, Text.isBlank c = false
  single : text.IsChain fun c next => Text.isBlank c = true → Text.isBlank next = false
  noTimes : Text.timesSign ∉ text

/-- Both texts are cut into the same tokens, or neither can be cut. -/
def CutAlike (text other : Text) : Prop :=
  (∃ found, tokens text = .ok found ∧ tokens other = .ok found) ∨
    ∃ fault otherFault, tokens text = .error fault ∧ tokens other = .error otherFault ∧
      fault.category? = some .invalidCharacter ∧ otherFault.category? = some .invalidCharacter

section Characters

theorem is_notation_without_times_sign (c : Char) :
    isNotation (withoutTimesSign c) = isTyped c := by
  unfold withoutTimesSign
  split
  · rename_i times
    rw [times]
    rfl
  · rename_i noTimes
    have listed : "+-*/().%".toList.contains c = ".%+-*/()X".toList.contains c := by
      have other : c ≠ 'X' := noTimes
      rw [Bool.eq_iff_iff]
      simp only [String.reduceToList, List.contains_eq_mem, List.mem_cons, List.not_mem_nil,
        or_false, decide_eq_true_eq]
      grind
    rw [isNotation, isTyped, listed]

theorem is_blank_of_not_notation {c : Char} (foreign : isNotation c = false) :
    Text.isBlank c = false := by
  rw [Bool.eq_false_iff]
  intro blank
  rw [is_notation_of_is_blank blank] at foreign
  contradiction

theorem mem_spelled {c : Char} {source : Text} (solid : Text.isBlank c = false) :
    c ∈ spelled source ↔ c ∈ source.map withoutTimesSign := by
  rw [spelled, Text.mem_trim solid, Text.squeeze, Text.mem_squeeze_from solid]

theorem all_notation_iff (source : Text) :
    (∀ c ∈ spelled source, isNotation c = true) ↔ ∀ c ∈ source, isTyped c = true := by
  constructor
  · intro known c member
    rw [← is_notation_without_times_sign]
    by_contra foreign
    have solid := is_blank_of_not_notation (by simpa using foreign)
    exact foreign (known _ ((mem_spelled solid).2 (List.mem_map_of_mem member)))
  · intro typed c member
    by_contra foreign
    have solid := is_blank_of_not_notation (by simpa using foreign)
    obtain ⟨given, listed, rfl⟩ := List.mem_map.1 ((mem_spelled solid).1 member)
    rw [is_notation_without_times_sign] at foreign
    exact foreign (typed given listed)

theorem normal_eq_error_iff (source : Text) :
    (∃ fault, normal source = .error fault) ↔ ∃ c ∈ source, isTyped c = false := by
  have succeeds : (∃ text, normal source = .ok text) ↔ ∀ c ∈ source, isTyped c = true := by
    rw [← all_notation_iff]
    simp only [normal_eq_ok_iff, exists_eq_left]
  cases outcome : normal source with
  | error fault =>
      refine iff_of_true ⟨fault, rfl⟩ ?_
      by_contra none
      obtain ⟨text, found⟩ := succeeds.2 (by simpa using none)
      rw [outcome] at found
      contradiction
  | ok text =>
      refine iff_of_false (fun ⟨_, failed⟩ => nomatch failed) ?_
      rintro ⟨c, member, foreign⟩
      rw [succeeds.1 ⟨text, outcome⟩ c member] at foreign
      contradiction

end Characters

theorem is_squeezed_spelled (source : Text) : Text.IsSqueezed (spelled source) :=
  (Text.is_squeezed_squeeze _).infix_part (Text.is_infix_trim _)

theorem spelled_of_is_squeezed {text : Text} (known : ∀ c ∈ text, isNotation c = true)
    (squeezed : Text.IsSqueezed text) (trimmed : Text.trim text = text) : spelled text = text := by
  rw [spelled, map_without_times_sign known, Text.squeeze_of_is_squeezed squeezed, trimmed]

section Form

variable {source text : Text}

theorem is_normal_of_normal (normalized : normal source = .ok text) : IsNormal text := by
  obtain ⟨rfl, known⟩ := normal_eq_ok_iff.1 normalized
  refine ⟨Text.head_trim, Text.getLast_trim, (is_squeezed_spelled source).single, ?_⟩
  intro times
  have character := known _ times
  contradiction

theorem normal_of_normal (normalized : normal source = .ok text) : normal text = .ok text := by
  obtain ⟨rfl, known⟩ := normal_eq_ok_iff.1 normalized
  have same := spelled_of_is_squeezed known (is_squeezed_spelled source) (Text.trim_trim _)
  exact normal_eq_ok_iff.2 ⟨same.symm, known⟩

theorem cut_alike_of_normal (normalized : normal source = .ok text) :
    CutAlike text (source.map withoutTimesSign) := by
  cases read : tokens text with
  | ok found => exact .inl ⟨found, read, tokens_eq_ok_iff.2 (lexes_of_normal normalized read)⟩
  | error fault =>
      refine .inr ?_
      cases readOther : tokens (source.map withoutTimesSign) with
      | ok found =>
          obtain ⟨again, cut⟩ := tokens_normal (tokens_eq_ok_iff.1 readOther)
          rw [normalized] at again
          cases again
          rw [read] at cut
          contradiction
      | error otherFault =>
          exact ⟨fault, otherFault, read, rfl, category_of_tokens_from read,
            category_of_tokens_from readOther⟩

end Form

/-- A text has a normal form unless it holds a character that no expression is typed with. The form
is normal and its own normal form, and it is cut into the tokens of the text with its multiplication
signs written as `*`, or neither can be cut. -/
theorem normal_form_keeps_tokens (source : Text) :
    ((∃ fault, normal source = .error fault) ↔ ∃ c ∈ source, isTyped c = false) ∧
    ∀ text, normal source = .ok text →
      IsNormal text ∧ normal text = .ok text ∧ CutAlike text (source.map withoutTimesSign) :=
  ⟨normal_eq_error_iff source, fun _ normalized =>
    ⟨is_normal_of_normal normalized, normal_of_normal normalized, cut_alike_of_normal normalized⟩⟩

example : normal " 3\tX \u30004 ".toList = .ok "3 * 4".toList := by decide +kernel

end Reckoner.Expression
