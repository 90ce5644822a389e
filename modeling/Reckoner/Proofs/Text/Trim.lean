import Mathlib.Data.List.Chain
import Mathlib.Data.List.DropRight
import Reckoner.Proofs.Token.Literal

/-!
# Trimmed and squeezed texts

A trimmed text has no blanks at its ends, and trimming changes nothing on such a text. In a squeezed
text no blank follows another and every blank is a space, and squeezing changes nothing on such a
text. Neither loses a character that is not blank.
-/

namespace Reckoner.Text

set_option autoImplicit false

section Trimming

variable {text : Text}

theorem trim_end_append_blanks {blanks : Text} (solid : ∀ c ∈ text.getLast?, isBlank c = false)
    (blank : ∀ c ∈ blanks, isBlank c = true) : trimEnd (text ++ blanks) = text := by
  unfold trimEnd
  rw [List.reverse_append, dropWhile_append_of_stop, List.reverse_reverse]
  · simpa using blank
  · simpa using solid

theorem trim_end_of_solid (solid : ∀ c ∈ text.getLast?, isBlank c = false) :
    trimEnd text = text := by
  have nothing := @trim_end_append_blanks text [] solid (by simp)
  rwa [List.append_nil] at nothing

theorem trim_start_of_solid (solid : ∀ c ∈ text.head?, isBlank c = false) :
    trimStart text = text :=
  @dropWhile_append_of_stop Char isBlank [] text (by simp) solid

theorem getLast_trim : ∀ c ∈ (trim text).getLast?, isBlank c = false := by
  intro c member
  rw [trim, trimEnd, List.getLast?_reverse] at member
  exact head_dropWhile isBlank _ c member

theorem is_prefix_trim (text : Text) : trim text <+: trimStart text :=
  List.rdropWhile_prefix _ _

theorem head_trim : ∀ c ∈ (trim text).head?, isBlank c = false := by
  intro c member
  obtain ⟨rest, trimmed⟩ := List.head?_eq_some_iff.1 member
  obtain ⟨behind, same⟩ := is_prefix_trim text
  apply head_dropWhile isBlank text c
  rw [show text.dropWhile isBlank = trim text ++ behind from same.symm, trimmed]
  rfl

theorem trim_of_solid (start : ∀ c ∈ text.head?, isBlank c = false)
    (stop : ∀ c ∈ text.getLast?, isBlank c = false) : trim text = text := by
  rw [trim, trim_start_of_solid start, trim_end_of_solid stop]

theorem trim_trim (text : Text) : trim (trim text) = trim text :=
  trim_of_solid head_trim getLast_trim

theorem is_infix_trim (text : Text) : trim text <:+: text :=
  (is_prefix_trim text).isInfix.trans (List.dropWhile_suffix _).isInfix

theorem mem_of_mem_trim {c : Char} (member : c ∈ trim text) : c ∈ text :=
  (is_infix_trim text).subset member

theorem mem_dropWhile_of_solid {c : Char} (member : c ∈ text) (solid : isBlank c = false) :
    c ∈ text.dropWhile isBlank := by
  rw [← List.takeWhile_append_dropWhile (p := isBlank) (l := text)] at member
  refine (List.mem_append.1 member).resolve_left fun taken => ?_
  rw [List.mem_takeWhile_imp taken] at solid
  contradiction

theorem mem_trim {c : Char} (solid : isBlank c = false) : c ∈ trim text ↔ c ∈ text := by
  refine ⟨mem_of_mem_trim, fun member => ?_⟩
  have started := List.mem_reverse.2 (mem_dropWhile_of_solid member solid)
  exact List.mem_reverse.2 (mem_dropWhile_of_solid started solid)

end Trimming

section Squeezing

/-- Every blank is a space, and no blank follows another. -/
structure IsSqueezed (text : Text) : Prop where
  spaces : ∀ c ∈ text, isBlank c = true → c = ' '
  single : text.IsChain fun c next => isBlank c = true → isBlank next = false

theorem IsSqueezed.infix_part {text whole : Text} (squeezed : IsSqueezed whole)
    (part : text <:+: whole) : IsSqueezed text where
  spaces := fun c member => squeezed.spaces c (part.subset member)
  single := List.IsChain.infix squeezed.single part

theorem is_squeezed_nil : IsSqueezed [] :=
  ⟨by simp, List.isChain_nil⟩

theorem is_squeezed_cons {c : Char} {rest : Text} :
    IsSqueezed (c :: rest) ↔ (isBlank c = true → c = ' ') ∧
      (isBlank c = true → ∀ next ∈ rest.head?, isBlank next = false) ∧ IsSqueezed rest := by
  constructor
  · rintro ⟨spaces, single⟩
    obtain ⟨space, others⟩ := List.forall_mem_cons.1 spaces
    obtain ⟨apart, chain⟩ := List.isChain_cons.1 single
    exact ⟨space, fun blank next member => apart next member blank, others, chain⟩
  · rintro ⟨space, apart, others, chain⟩
    refine ⟨List.forall_mem_cons.2 ⟨space, others⟩, List.isChain_cons.2 ⟨?_, chain⟩⟩
    exact fun next member blank => apart blank next member

theorem is_squeezed_squeeze_from (inRun : Bool) (text : Text) :
    IsSqueezed (squeezeFrom inRun text) ∧
      (inRun = true → ∀ c ∈ (squeezeFrom inRun text).head?, isBlank c = false) := by
  induction text generalizing inRun with
  | nil => exact ⟨is_squeezed_nil, by simp [squeezeFrom]⟩
  | cons c rest ih =>
      obtain ⟨behindBlank, apart⟩ := ih true
      by_cases blank : isBlank c = true
      · cases inRun with
        | true =>
            rw [squeezeFrom, if_pos blank]
            exact ih true
        | false =>
            rw [squeezeFrom, if_pos blank]
            exact ⟨is_squeezed_cons.2 ⟨fun _ => rfl, fun _ => apart rfl, behindBlank⟩, nofun⟩
      · rw [squeezeFrom, if_neg blank]
        refine ⟨is_squeezed_cons.2 ⟨?_, ?_, (ih false).1⟩, ?_⟩
        · exact fun isBlank => absurd isBlank blank
        · exact fun isBlank => absurd isBlank blank
        · intro _ first member
          cases Option.some.inj member
          simpa using blank

theorem is_squeezed_squeeze (text : Text) : IsSqueezed (squeeze text) :=
  (is_squeezed_squeeze_from false text).1

/-- Squeezing changes nothing where no blank follows another, the run before the text included. -/
theorem squeeze_from_of_is_squeezed {text : Text} (squeezed : IsSqueezed text) (inRun : Bool)
    (apart : inRun = true → ∀ c ∈ text.head?, isBlank c = false) :
    squeezeFrom inRun text = text := by
  induction text generalizing inRun with
  | nil => rfl
  | cons c rest ih =>
      obtain ⟨space, behindBlank, others⟩ := is_squeezed_cons.1 squeezed
      by_cases blank : isBlank c = true
      · cases inRun with
        | true =>
            rw [apart rfl c rfl] at blank
            contradiction
        | false =>
            rw [squeezeFrom, if_pos blank, if_neg Bool.false_ne_true, space blank,
              ih others true fun _ => behindBlank blank]
      · rw [squeezeFrom, if_neg blank, ih others false nofun]

theorem squeeze_of_is_squeezed {text : Text} (squeezed : IsSqueezed text) : squeeze text = text :=
  squeeze_from_of_is_squeezed squeezed false nofun

theorem mem_squeeze_from {c : Char} (solid : isBlank c = false) (inRun : Bool) (text : Text) :
    c ∈ squeezeFrom inRun text ↔ c ∈ text := by
  induction text generalizing inRun with
  | nil => rfl
  | cons first rest ih =>
      by_cases blank : isBlank first = true
      · have other : c ≠ first := by
          rintro rfl
          rw [solid] at blank
          contradiction
        have noSpace : c ≠ ' ' := by
          rintro rfl
          contradiction
        cases inRun <;> simp [squeezeFrom, blank, ih, other, noSpace]
      · rw [squeezeFrom, if_neg blank, List.mem_cons, List.mem_cons, ih]

end Squeezing

end Reckoner.Text
