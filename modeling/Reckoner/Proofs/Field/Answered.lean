import Reckoner.Proofs.Expression.Spacing
import Reckoner.Proofs.Field.Request

/-!
# What the answered line keeps

An answered line is put together from the parts of its equation, and blanks are all that is lost on
the way. Without its blanks it is the line followed by the result. Written out, it ends in the
expression and the result, and what stands before the expression is the settled part of the line
with single spaces around the equals sign that ends it.
-/

namespace Reckoner.Field

open Expression (withoutBlanks)

set_option autoImplicit false

section Blanks

variable {text : Text}

theorem without_blanks_append (text behind : Text) :
    withoutBlanks (text ++ behind) = withoutBlanks text ++ withoutBlanks behind :=
  List.filter_append text behind

theorem without_blanks_of_blank (blank : ∀ c ∈ text, Text.isBlank c = true) :
    withoutBlanks text = [] := by
  rw [withoutBlanks, List.filter_eq_nil_iff]
  intro c member
  rw [blank c member]
  exact Bool.false_ne_true

theorem without_blanks_dropWhile (text : Text) :
    withoutBlanks (text.dropWhile Text.isBlank) = withoutBlanks text := by
  have dropped : withoutBlanks (text.takeWhile Text.isBlank) = [] :=
    without_blanks_of_blank fun _ => List.mem_takeWhile_imp
  conv_rhs => rw [← List.takeWhile_append_dropWhile (p := Text.isBlank) (l := text)]
  rw [without_blanks_append, dropped, List.nil_append]

theorem without_blanks_reverse (text : Text) :
    withoutBlanks text.reverse = (withoutBlanks text).reverse :=
  List.filter_reverse

theorem without_blanks_trim_end (text : Text) :
    withoutBlanks (Text.trimEnd text) = withoutBlanks text := by
  rw [Text.trimEnd, without_blanks_reverse, without_blanks_dropWhile, without_blanks_reverse,
    List.reverse_reverse]

theorem without_blanks_trim (text : Text) :
    withoutBlanks (Text.trim text) = withoutBlanks text := by
  rw [Text.trim, without_blanks_trim_end, Text.trimStart, without_blanks_dropWhile]

end Blanks

namespace Equation

/-- The equals sign that ends a settled part stands between single spaces behind what was before it,
whatever blanks there were. -/
theorem settled_concat (front : Text) :
    settled (front ++ ['=']) = Text.trimEnd front ++ spacedEquals := by
  have sign : Text.isBlank '=' = false := rfl
  simp [settled, sign, Text.trimEnd]

end Equation

section Cut

variable {text left segment : Text}

theorem IsCut.eq_concat (cut : IsCut text left segment) (nonempty : left ≠ []) :
    ∃ front, left = front ++ ['='] := by
  have last := cut.left_ends.resolve_left nonempty
  exact ⟨left.dropLast, (List.dropLast_append_getLast? '=' last).symm⟩

theorem IsCut.without_blanks_settled (cut : IsCut text left segment) :
    withoutBlanks (Equation.settled left) = withoutBlanks left := by
  by_cases empty : left = []
  · rw [empty]
    rfl
  · obtain ⟨front, rfl⟩ := cut.eq_concat empty
    rw [Equation.settled_concat, without_blanks_append, without_blanks_append,
      without_blanks_trim_end]
    rfl

end Cut

section Line

variable {line head gap left segment : Text} {previous last : Char}

theorem Asks.without_blanks_eq (asks : Asks line head gap previous last) :
    withoutBlanks line = withoutBlanks head ++ ['='] := by
  have ending : withoutBlanks ['=', previous, last] = ['='] := by
    have sign : Text.isBlank '=' = false := rfl
    simp [withoutBlanks, asks.previous_blank, asks.last_blank, sign]
  rw [asks.joined, without_blanks_append, without_blanks_append, ending,
    without_blanks_of_blank asks.gap_blank, List.append_nil]

theorem count_equals_of_blank {text : Text} (blank : ∀ c ∈ text, Text.isBlank c = true) :
    text.count '=' = 0 := by
  rw [List.count_eq_zero]
  intro member
  exact absurd (blank '=' member) (by decide)

/-- The equals signs of a line are those of its settled part and the one that asks. -/
theorem Asks.count_equals (asks : Asks line head gap previous last)
    (cut : IsCut head left segment) : line.count '=' = left.count '=' + 1 := by
  have behind : [previous, last].count '=' = 0 := by
    apply count_equals_of_blank
    simp [asks.previous_blank, asks.last_blank]
  have ending : ['=', previous, last].count '=' = 1 := by
    rw [List.count_cons_self, behind]
  have plain : segment.count '=' = 0 := List.count_eq_zero.2 cut.no_equals
  rw [asks.joined, List.count_append, List.count_append, ending, ← cut.joined,
    List.count_append, plain, count_equals_of_blank asks.gap_blank]

/-- Only the sign that asks is on the line exactly if nothing is settled before its segment. -/
theorem Asks.count_equals_eq_one_iff (asks : Asks line head gap previous last)
    (cut : IsCut head left segment) : line.count '=' = 1 ↔ left = [] := by
  rw [asks.count_equals cut]
  constructor
  · intro single
    by_contra nonempty
    obtain ⟨front, rfl⟩ := cut.eq_concat nonempty
    rw [List.count_append, List.count_singleton_self] at single
    omega
  · rintro rfl
    rfl

end Line

/-- An answered line keeps all of the line but blanks, and the result stands behind it. It ends in
the expression, the result and the sign between them. Before that stands nothing if the line had no
other equals sign than the one that asks, and else the settled part as it was, with single spaces
around its last equals sign. -/
theorem answered_line_keeps_text {line : Text} {equation : Equation}
    (found : Equation.ofLine? line = some equation) (result : Text) :
    withoutBlanks (Equation.answered equation.leftPart equation.expression result) =
      withoutBlanks line ++ withoutBlanks result ∧
    ∃ before, Equation.answered equation.leftPart equation.expression result =
        before ++ (equation.expression ++ " = ".toList ++ result ++ " ".toList) ∧
      (line.count '=' = 1 → before = []) ∧
      (line.count '=' ≠ 1 → ∃ front, equation.leftPart = front ++ ['='] ∧
        before = Text.trimEnd front ++ " = ".toList) := by
  obtain ⟨head, gap, previous, last, asks⟩ := exists_asks found
  obtain ⟨cut, trimmed⟩ := asks.is_cut found
  constructor
  · have sign : withoutBlanks Equation.spacedEquals = ['='] := rfl
    have space : withoutBlanks [' '] = [] := rfl
    simp only [Equation.answered, without_blanks_append, cut.without_blanks_settled, trimmed,
      without_blanks_trim, sign, space, asks.without_blanks_eq, ← cut.joined, List.append_nil]
  · refine ⟨Equation.settled equation.leftPart, ?_, fun single => ?_, fun several => ?_⟩
    · simp only [Equation.answered, List.append_assoc]
      rfl
    · rw [(asks.count_equals_eq_one_iff cut).1 single]
      rfl
    · have nonempty := (asks.count_equals_eq_one_iff cut).not.1 several
      obtain ⟨front, same⟩ := cut.eq_concat nonempty
      refine ⟨front, same, ?_⟩
      rw [same, Equation.settled_concat]
      rfl

/-- Two equals signs with several kinds of blanks about them are settled, of which the first keeps
what stands around it. -/
theorem settled_signs_keep_text :
    Equation.ofLine? "x \u3000=\t\u00a0= 2*3=\u2003 ".toList =
      some ⟨"x \u3000=\t\u00a0=".toList, " 2*3".toList, "2*3".toList⟩ ∧
    "x \u3000=\t\u00a0= 2*3=\u2003 ".toList.count '=' ≠ 1 ∧
    withoutBlanks (Equation.answered "x \u3000=\t\u00a0=".toList "2*3".toList "6 m".toList) =
      "x==2*3=".toList ++ "6m".toList ∧
    ∃ front, "x \u3000=\t\u00a0=".toList = front ++ ['='] ∧
      Equation.answered "x \u3000=\t\u00a0=".toList "2*3".toList "6 m".toList =
        Text.trimEnd front ++ " = ".toList ++ "2*3 = 6 m ".toList := by
  have found : Equation.ofLine? "x \u3000=\t\u00a0= 2*3=\u2003 ".toList =
      some ⟨"x \u3000=\t\u00a0=".toList, " 2*3".toList, "2*3".toList⟩ := by decide
  have several : "x \u3000=\t\u00a0= 2*3=\u2003 ".toList.count '=' ≠ 1 := by decide
  obtain ⟨kept, before, written, _, settles⟩ := answered_line_keeps_text found "6 m".toList
  obtain ⟨front, same, rfl⟩ := settles several
  exact ⟨found, several, kept, front, same, written⟩

end Reckoner.Field
