import Reckoner.Text.Blank
import Reckoner.Text.WordCharacter

/-!
# Classes of characters

The classes that texts are read by do not overlap: a digit is no blank and no part of a word, and a
part of a word is no blank, and a number sign is no letter. Classes are listed as ranges of code
points, so each fact comes down to ranges that lie apart.
-/

namespace Reckoner.Text

set_option autoImplicit false

theorem CodeRanges.exists_of_covers {ranges : CodeRanges} {code : Nat}
    (covered : ranges.covers code = true) :
    ∃ range ∈ ranges, range.1 ≤ code ∧ code ≤ range.2 := by
  induction ranges with
  | nil => contradiction
  | cons range rest ih =>
      obtain ⟨first, last⟩ := range
      unfold covers at covered
      by_cases before : code < first
      · rw [if_pos before] at covered
        contradiction
      · rw [if_neg before] at covered
        by_cases inside : code ≤ last
        · exact ⟨(first, last), List.mem_cons_self, Nat.le_of_not_lt before, inside⟩
        · rw [if_neg inside] at covered
          obtain ⟨found, member, bounds⟩ := ih covered
          exact ⟨found, List.mem_cons_of_mem _ member, bounds⟩

theorem CodeRanges.not_covers {ranges : CodeRanges} {first last code : Nat}
    (inside : first ≤ code ∧ code ≤ last)
    (apart : ∀ range ∈ ranges, range.2 < first ∨ last < range.1) :
    ranges.covers code = false := by
  rw [Bool.eq_false_iff]
  intro covered
  obtain ⟨range, member, bounds⟩ := exists_of_covers covered
  rcases apart range member with below | above <;> omega

theorem toNat_of_is_digit {c : Char} (digit : c.isDigit = true) : 48 ≤ c.toNat ∧ c.toNat ≤ 57 := by
  simp only [Char.isDigit, Bool.and_eq_true, decide_eq_true_eq, ge_iff_le,
    UInt32.le_iff_toNat_le] at digit
  exact digit

theorem is_blank_of_is_digit {c : Char} (digit : c.isDigit = true) : isBlank c = false :=
  CodeRanges.not_covers (toNat_of_is_digit digit) (by decide)

theorem is_word_character_of_is_digit {c : Char} (digit : c.isDigit = true) :
    isWordCharacter c = false := by
  have bounds := toNat_of_is_digit digit
  have letter : isLetter c = false := CodeRanges.not_covers bounds (by decide +kernel)
  have sign : isNumberSign c = false := CodeRanges.not_covers bounds (by decide +kernel)
  simp [isWordCharacter, letter, sign]

theorem word_ranges_apart :
    ∀ blank ∈ blankRanges, ∀ range ∈ letterRanges ++ numberSignRanges,
      range.2 < blank.1 ∨ blank.2 < range.1 := by
  decide +kernel

theorem is_word_character_of_is_blank {c : Char} (blank : isBlank c = true) :
    isWordCharacter c = false := by
  obtain ⟨range, member, bounds⟩ := CodeRanges.exists_of_covers blank
  have apart := word_ranges_apart range member
  have letter : isLetter c = false := CodeRanges.not_covers bounds fun other found =>
    apart other (List.mem_append_left _ found)
  have sign : isNumberSign c = false := CodeRanges.not_covers bounds fun other found =>
    apart other (List.mem_append_right _ found)
  simp [isWordCharacter, letter, sign]

/-- Each of the other ranges lies in front of the first range that does not end before it begins. -/
def CodeRanges.avoids : CodeRanges → CodeRanges → Bool
  | _, [] => true
  | ranges, (first, last) :: others =>
      let behind := ranges.dropWhile (·.2 < first)
      behind.head?.all (last < ·.1) && CodeRanges.avoids behind others

/-- Ranges that end before the code point are of no account for it. -/
theorem CodeRanges.not_covers_of_dropWhile {ranges : CodeRanges} {first code : Nat}
    (reached : first ≤ code)
    (missed : CodeRanges.covers (ranges.dropWhile (·.2 < first)) code = false) :
    ranges.covers code = false := by
  induction ranges with
  | nil => rfl
  | cons range rest ih =>
      by_cases before : range.2 < first
      · rw [List.dropWhile_cons_of_pos (by simpa using before)] at missed
        have passed : ¬code ≤ range.2 := by omega
        rw [CodeRanges.covers, if_neg passed, ih missed, ite_self]
      · rwa [List.dropWhile_cons_of_neg (by simpa using before)] at missed

theorem CodeRanges.not_covers_of_avoids {ranges others : CodeRanges} {code : Nat}
    (apart : ranges.avoids others = true) (covered : others.covers code = true) :
    ranges.covers code = false := by
  induction others generalizing ranges with
  | nil => contradiction
  | cons other rest ih =>
      obtain ⟨first, last⟩ := other
      obtain ⟨clear, later⟩ := Bool.and_eq_true_iff.1 apart
      rw [CodeRanges.covers] at covered
      split at covered
      · contradiction
      · rename_i reached
        apply not_covers_of_dropWhile (Nat.le_of_not_lt reached)
        split at covered
        · rename_i inside
          cases behind : ranges.dropWhile (·.2 < first) with
          | nil => rfl
          | cons range _ =>
              rw [behind] at clear
              have before : code < range.1 := Nat.lt_of_le_of_lt inside (by simpa using clear)
              rw [CodeRanges.covers, if_pos before]
        · exact ih later covered

theorem is_letter_of_is_number_sign {c : Char} (sign : isNumberSign c = true) :
    isLetter c = false :=
  CodeRanges.not_covers_of_avoids (by decide +kernel) sign

theorem is_word_character_iff {c : Char} :
    isWordCharacter c = true ↔ c ≠ timesSign ∧ (isLetter c = true ∨ isNumberSign c = true) := by
  rw [isWordCharacter, Bool.and_eq_true, bne_iff_ne, Bool.or_eq_true]

theorem is_word_character_of_is_number_sign {c : Char} (sign : isNumberSign c = true) :
    isWordCharacter c = true := by
  refine is_word_character_iff.2 ⟨?_, .inr sign⟩
  rintro rfl
  exact absurd sign (by decide +kernel)

end Reckoner.Text
