import Reckoner.Decimal.Digits
import Reckoner.Proofs.Decimal.Digits
import Reckoner.Proofs.Text.Class
import Reckoner.Text.Quoted

/-!
# Texts that are shown as they are

A text of printable characters holds no line break of any kind, so it stays on one line wherever it
is written. Any text becomes such a text by being quoted.
-/

namespace Reckoner.Text

set_option autoImplicit false

def IsShown (text : Text) : Prop :=
  ∀ c ∈ text, isPrintable c = true

section Characters

variable {text other : Text}

@[simp] theorem is_shown_nil : IsShown [] :=
  List.forall_mem_nil _

@[simp] theorem is_shown_cons {c : Char} :
    IsShown (c :: text) ↔ isPrintable c = true ∧ IsShown text :=
  List.forall_mem_cons

@[simp] theorem is_shown_append : IsShown (text ++ other) ↔ IsShown text ∧ IsShown other :=
  List.forall_mem_append

theorem IsShown.append (shown : IsShown text) (behind : IsShown other) : IsShown (text ++ other) :=
  is_shown_append.2 ⟨shown, behind⟩

/-- A text that is written out in full is shown by evaluating the test. -/
theorem is_shown_phrase (all : text.all isPrintable = true) : IsShown text :=
  List.all_eq_true.1 all

theorem IsShown.of_subset (shown : IsShown text) (kept : other ⊆ text) : IsShown other :=
  fun c member => shown c (kept member)

theorem is_shown_replicate {c : Char} (printable : isPrintable c = true) (count : Nat) :
    IsShown (List.replicate count c) := by
  intro other member
  rw [List.eq_of_mem_replicate member]
  exact printable

theorem is_shown_flatMap {Item : Type} {items : List Item} {write : Item → Text}
    (all : ∀ item ∈ items, IsShown (write item)) : IsShown (items.flatMap write) := by
  intro c member
  obtain ⟨item, listed, inside⟩ := List.mem_flatMap.1 member
  exact all item listed c inside

theorem is_shown_joined {separator : Text} {parts : List Text} (between : IsShown separator)
    (all : ∀ part ∈ parts, IsShown part) : IsShown (joined separator parts) := by
  unfold joined
  induction parts with
  | nil => exact is_shown_nil
  | cons part rest ih =>
      obtain ⟨shown, others⟩ := List.forall_mem_cons.1 all
      cases rest with
      | nil =>
          rw [List.intercalate_singleton]
          exact shown
      | cons next rest =>
          rw [List.intercalate_cons_cons, is_shown_append, is_shown_append]
          exact ⟨⟨shown, between⟩, ih others⟩

theorem is_printable_of_ascii {c : Char} (first : 0x20 ≤ c.toNat) (last : c.toNat ≤ 0x7E) :
    isPrintable c = true := by
  unfold isPrintable printableRanges CodeRanges.covers
  rw [if_neg (Nat.not_lt.2 first), if_pos last]

theorem is_shown_of_digits (digits : ∀ c ∈ text, c.isDigit = true) : IsShown text := by
  intro c member
  have bounds := toNat_of_is_digit (digits c member)
  exact is_printable_of_ascii (by omega) (by omega)

theorem is_shown_numeral (value : Nat) : IsShown (Decimal.numeral value) :=
  is_shown_of_digits (Decimal.is_digit_of_mem_numeral value)

theorem is_shown_padded (width value : Nat) : IsShown (Decimal.padded width value) :=
  is_shown_of_digits (Decimal.is_digit_of_mem_padded width value)

theorem is_shown_integer_numeral (value : Int) : IsShown (Decimal.integerNumeral value) := by
  unfold Decimal.integerNumeral
  split
  · exact is_shown_cons.2 ⟨rfl, is_shown_numeral _⟩
  · exact is_shown_numeral _

end Characters

section Quoted

theorem is_printable_hex_digit : ∀ value < 16, isPrintable (hexDigit value) = true := by
  decide

theorem is_shown_hex_digits (width value : Nat) : IsShown (hexDigits width value) := by
  induction width generalizing value with
  | zero => exact is_shown_nil
  | succ width ih =>
      rw [hexDigits, is_shown_append]
      refine ⟨ih (value / 16), ?_⟩
      exact List.forall_mem_singleton.2 (is_printable_hex_digit _ (Nat.mod_lt _ (by decide)))

theorem is_shown_code_escape (c : Char) : IsShown (codeEscape c) := by
  have escape : ∀ mark ∈ ['x', 'u', 'U'], ∀ width,
      IsShown ('\\' :: mark :: hexDigits width c.toNat) := by
    intro mark listed width
    have printable : IsShown ['x', 'u', 'U'] := is_shown_phrase rfl
    exact is_shown_cons.2 ⟨rfl, is_shown_cons.2 ⟨printable mark listed, is_shown_hex_digits _ _⟩⟩
  unfold codeEscape
  split
  · exact escape 'x' (by decide) 2
  · split
    · exact escape 'u' (by decide) 4
    · exact escape 'U' (by decide) 8

theorem is_printable_quote_mark (text : Text) : isPrintable (quoteMark text) = true := by
  unfold quoteMark
  split <;> rfl

theorem is_shown_escaped {mark : Char} (printable : isPrintable mark = true) (c : Char) :
    IsShown (escaped mark c) := by
  fun_cases escaped mark c with
  | case1 special =>
      rcases special with rfl | rfl
      · simpa using ⟨rfl, printable⟩
      · exact is_shown_phrase rfl
  | case2 | case3 | case4 => exact is_shown_phrase rfl
  | case5 _ _ _ _ own => simpa using own
  | case6 => exact is_shown_code_escape c

/-- Whatever a text holds, all of it is shown between quotation marks. -/
theorem is_shown_quoted (text : Text) : IsShown (quoted text) := by
  have mark := is_printable_quote_mark text
  simp only [quoted, is_shown_cons, is_shown_append]
  exact ⟨⟨mark, is_shown_flatMap fun c _ => is_shown_escaped mark c⟩, mark, is_shown_nil⟩

end Quoted

section Lines

/-- The code points of the characters that end a line for some reader. -/
def lineBreakRanges : CodeRanges :=
  [(0xA, 0xD), (0x1C, 0x1E), (0x85, 0x85), (0x2028, 0x2029)]

def isLineBreak (c : Char) : Bool :=
  lineBreakRanges.covers c.toNat

/-- The lines of a text that are ended by a line break, each break ending one. -/
def finishedLines (text : Text) : List Text :=
  (text.splitOnP isLineBreak).dropLast

def written (lines : List Text) : Text :=
  lines.flatMap (· ++ ['\n'])

theorem is_line_break_of_is_printable {c : Char} (printable : isPrintable c = true) :
    isLineBreak c = false := by
  have ranges : ∀ range ∈ printableRanges, ∀ other ∈ lineBreakRanges,
      other.2 < range.1 ∨ range.2 < other.1 := by
    decide +kernel
  obtain ⟨range, member, bounds⟩ := CodeRanges.exists_of_covers printable
  exact CodeRanges.not_covers bounds (ranges range member)

theorem finished_lines_cons (line : Text) (lines : List Text) :
    finishedLines (written (line :: lines)) =
      line.splitOnP isLineBreak ++ finishedLines (written lines) := by
  have begins : written (line :: lines) = line ++ '\n' :: written lines := by
    simp [written]
  rw [begins, finishedLines, List.splitOnP_append_cons line _ (by decide),
    List.dropLast_append_of_ne_nil (List.splitOnP_ne_nil _ _)]
  rfl

theorem finished_lines_of_shown {lines : List Text} (all : ∀ line ∈ lines, IsShown line) :
    finishedLines (written lines) = lines := by
  induction lines with
  | nil => rfl
  | cons line rest ih =>
      obtain ⟨shown, others⟩ := List.forall_mem_cons.1 all
      have unbroken := List.splitOnP_eq_singleton fun c member =>
        is_line_break_of_is_printable (shown c member)
      rw [finished_lines_cons, unbroken, ih others, List.singleton_append]

/-- What is shown adds exactly its own lines to whatever was written before. -/
theorem finished_lines_written (earlier : List Text) {lines : List Text}
    (all : ∀ line ∈ lines, IsShown line) :
    finishedLines (written (earlier ++ lines)) = finishedLines (written earlier) ++ lines := by
  induction earlier with
  | nil => exact finished_lines_of_shown all
  | cons line rest ih =>
      rw [List.cons_append, finished_lines_cons, ih, finished_lines_cons, List.append_assoc]

end Lines

end Reckoner.Text
