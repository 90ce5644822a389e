import Reckoner.CommandLine.Help

/-!
# The layout of the help

A paragraph has all its words in order, with one space between each two where no line ends. Its
lines keep to the width that they are laid out for if no word is longer, and so each option is
explained within the width of the help.
-/

namespace Reckoner.CommandLine.Help

set_option autoImplicit false

open Text (joined)

section Paragraph

variable {width : Nat}

theorem filled_ne_nil (line : Text) (words : List Text) : filled width line words ≠ [] := by
  induction words generalizing line with
  | nil => exact List.cons_ne_nil _ _
  | cons word rest ih =>
      rw [filled]
      split
      · exact ih _
      · exact List.cons_ne_nil _ _

theorem joined_filled (line : Text) (words : List Text) :
    joined [' '] (filled width line words) = joined [' '] (line :: words) := by
  induction words generalizing line with
  | nil => rfl
  | cons word rest ih =>
      unfold joined at ih ⊢
      rw [filled, List.intercalate_cons_cons]
      split
      · rw [ih]
        cases rest with
        | nil => simp only [List.intercalate_singleton, List.append_assoc, List.singleton_append]
        | cons next others =>
            simp only [List.intercalate_cons_cons, List.append_assoc, List.cons_append,
              List.nil_append]
      · rw [List.intercalate_cons_of_ne_nil (filled_ne_nil word rest), ih]

/-- To lay words out is to end lines at some of the spaces between them. -/
theorem joined_paragraph (words : List Text) :
    joined [' '] (paragraph width words) = joined [' '] words := by
  cases words with
  | nil => rfl
  | cons word rest => exact joined_filled word rest

theorem length_le_of_mem_filled {line : Text} {words : List Text} (begun : line.length ≤ width)
    (short : ∀ word ∈ words, word.length ≤ width) :
    ∀ found ∈ filled width line words, found.length ≤ width := by
  induction words generalizing line with
  | nil => exact List.forall_mem_singleton.2 begun
  | cons word rest ih =>
      obtain ⟨own, others⟩ := List.forall_mem_cons.1 short
      rw [filled]
      split
      · rename_i fits
        refine ih ?_ others
        rw [List.length_append, List.length_cons]
        omega
      · exact List.forall_mem_cons.2 ⟨begun, ih own others⟩

theorem length_le_of_mem_paragraph {words : List Text}
    (short : ∀ word ∈ words, word.length ≤ width) :
    ∀ line ∈ paragraph width words, line.length ≤ width := by
  cases words with
  | nil => exact List.forall_mem_nil _
  | cons word rest =>
      obtain ⟨own, others⟩ := List.forall_mem_cons.1 short
      exact length_le_of_mem_filled own others

end Paragraph

theorem length_indented (columns : Nat) (line : Text) :
    (indented columns line).length = columns + line.length := by
  rw [indented, List.length_append, List.length_replicate]

/-- Every option is explained within the width. -/
theorem length_le_of_mem_explained (flag : Flag) :
    ∀ line ∈ flag.explained, line.length ≤ width := by
  have headed : flag.heading.length ≤ width := by
    cases flag <;> decide
  have short : ∀ word ∈ words flag.purpose, word.length ≤ width - purposeColumn := by
    cases flag <;> decide
  have room : purposeColumn ≤ width := by decide
  have fits := length_le_of_mem_paragraph short
  have indents : ∀ line ∈ paragraph (width - purposeColumn) (words flag.purpose),
      (indented purposeColumn line).length ≤ width := by
    intro line member
    have bound := fits line member
    rw [length_indented]
    omega
  unfold Flag.explained
  dsimp only
  split
  · rename_i beside
    refine List.forall_mem_cons.2 ⟨?_, ?_⟩
    · have first : ((paragraph (width - purposeColumn) (words flag.purpose)).headD []).length ≤
          width - purposeColumn := by
        cases laid : paragraph (width - purposeColumn) (words flag.purpose) with
        | nil => exact Nat.zero_le _
        | cons line rest => exact fits line (laid ▸ List.mem_cons_self)
      rw [List.length_append, List.length_rightpad]
      omega
    · refine List.forall_mem_map.2 ?_
      intro line member
      exact indents line (List.mem_of_mem_tail member)
  · refine List.forall_mem_cons.2 ⟨headed, ?_⟩
    exact List.forall_mem_map.2 indents

example : Flag.line.explained =
    ["  --line LINE           Apply the '= ' trigger to a line of text and print the".toList,
      "                        rewritten line".toList] := by
  decide +kernel

end Reckoner.CommandLine.Help
