import Mathlib.Data.List.DropRight
import Reckoner.Proofs.Expression.Lexing

/-!
# The tokens of the normal form

Collapsing runs of blanks and dropping those at the ends changes a text but not its tokens. Hence
the normal form of an expression has the tokens of the expression.
-/

namespace Reckoner.Expression

set_option autoImplicit false

theorem head_squeeze_from {rest after : Text} {c : Char} (solid : Text.isBlank c = false)
    (same : Text.squeezeFrom false rest = c :: after) : ∃ others, rest = c :: others := by
  cases rest with
  | nil => contradiction
  | cons first others =>
      unfold Text.squeezeFrom at same
      by_cases blank : Text.isBlank first = true
      · rw [if_pos blank] at same
        cases same
        contradiction
      · rw [if_neg blank] at same
        cases same
        exact ⟨others, rfl⟩

theorem stops_before_squeeze_from {numeral : Numeral} {rest : Text}
    (stops : numeral.StopsBefore rest) : numeral.StopsBefore (Text.squeezeFrom false rest) := by
  rcases stops with percent | ⟨noPercent, noDigit, noFraction⟩
  · exact .inl percent
  · refine .inr ⟨fun percent => ?_, fun c member => ?_, fun empty begins => ?_⟩
    · obtain ⟨after, same⟩ := List.head?_eq_some_iff.1 percent
      obtain ⟨others, rfl⟩ := head_squeeze_from rfl same
      exact noPercent rfl
    · rw [Bool.eq_false_iff]
      intro digit
      obtain ⟨after, same⟩ := List.head?_eq_some_iff.1 member
      obtain ⟨others, rfl⟩ := head_squeeze_from (Text.is_blank_of_is_digit digit) same
      rw [noDigit c rfl] at digit
      contradiction
    · obtain ⟨c, after, same, digit⟩ := begins
      obtain ⟨others, rfl⟩ := head_squeeze_from rfl same
      simp only [Text.squeezeFrom, show Text.isBlank '.' = false from rfl, Bool.false_eq_true,
        if_false, List.cons.injEq, true_and] at same
      obtain ⟨behind, rfl⟩ := head_squeeze_from (Text.is_blank_of_is_digit digit) same
      exact noFraction empty ⟨c, behind, rfl, digit⟩

theorem squeeze_from_append {front : Text} (solid : ∀ c ∈ front, Text.isBlank c = false)
    (rest : Text) :
    Text.squeezeFrom false (front ++ rest) = front ++ Text.squeezeFrom false rest := by
  induction front with
  | nil => rfl
  | cons c front ih =>
      have others := ih fun other member => solid other (List.mem_cons_of_mem _ member)
      simp only [List.cons_append, Text.squeezeFrom, solid c List.mem_cons_self, Bool.false_eq_true,
        if_false, others]

theorem squeeze_from_solid {c : Char} (solid : Text.isBlank c = false) (inRun : Bool)
    (rest : Text) :
    Text.squeezeFrom inRun (c :: rest) = c :: Text.squeezeFrom false rest := by
  rw [Text.squeezeFrom, if_neg (by simp [solid])]

theorem squeeze_from_literal {numeral : Numeral} (written : numeral.WellFormed) (inRun : Bool)
    (rest : Text) :
    Text.squeezeFrom inRun (numeral.text ++ rest) =
      numeral.text ++ Text.squeezeFrom false rest := by
  have solid := fun c member => is_blank_of_mem_text written (c := c) member
  obtain ⟨c, others, text, digit⟩ := text_eq_cons written
  rw [← squeeze_from_append solid, text, List.cons_append,
    squeeze_from_solid (Text.is_blank_of_is_digit digit),
    squeeze_from_solid (Text.is_blank_of_is_digit digit)]

theorem Lexes.squeeze_from {source : Text} {tokens : List Token} (lexes : Lexes source tokens)
    (inRun : Bool) : Lexes (Text.squeezeFrom inRun source) tokens := by
  induction lexes generalizing inRun with
  | done => exact .done
  | blank blank _ ih =>
      rw [Text.squeezeFrom, if_pos blank]
      cases inRun with
      | true => exact ih true
      | false => exact .blank rfl (ih true)
  | @literal numeral rest _ written stops _ ih =>
      rw [squeeze_from_literal written]
      exact .literal written (stops_before_squeeze_from stops) (ih false)
  | symbol found _ ih =>
      rw [squeeze_from_solid (is_blank_of_symbol found)]
      exact .symbol found (ih false)

theorem Lexes.trim_start {source : Text} {tokens : List Token} (lexes : Lexes source tokens) :
    Lexes (Text.trimStart source) tokens := by
  unfold Text.trimStart
  induction source with
  | nil => exact lexes
  | cons c rest ih =>
      by_cases blank : Text.isBlank c = true
      · rw [List.dropWhile_cons_of_pos blank]
        have read := tokens_from_of_lexes lexes 0
        rw [tokens_from_blank blank] at read
        exact ih (lexes_of_tokens_from read)
      · rw [List.dropWhile_cons_of_neg blank]
        exact lexes

theorem Lexes.front {source : Text} {tokens : List Token} (lexes : Lexes source tokens)
    {front blanks : Text} (split : source = front ++ blanks)
    (blank : ∀ c ∈ blanks, Text.isBlank c = true) : Lexes front tokens := by
  induction lexes generalizing front blanks with
  | done =>
      obtain ⟨rfl, _⟩ := List.append_eq_nil_iff.1 split.symm
      exact .done
  | @blank c rest _ isBlank _ ih =>
      cases front with
      | nil =>
          rw [List.nil_append] at split
          subst split
          exact @ih [] _ rfl fun other member => blank other (List.mem_cons_of_mem _ member)
      | cons first front =>
          cases split
          exact .blank isBlank (ih rfl blank)
  | @literal numeral rest _ written stops _ ih =>
      rcases List.append_eq_append_iff.1 split with ⟨middle, rfl, rfl⟩ | ⟨middle, cut, rfl⟩
      · exact .literal written stops.of_append (ih rfl blank)
      · cases middle with
        | nil =>
            rw [List.append_nil] at cut
            rw [← cut, ← List.append_nil numeral.text]
            rw [← List.nil_append rest] at stops
            exact .literal written stops.of_append (@ih [] rest rfl blank)
        | cons c middle =>
            have inside : c ∈ numeral.text := by
              rw [cut]
              simp
            have solid := is_blank_of_mem_text written inside
            rw [blank c List.mem_cons_self] at solid
            contradiction
  | @symbol c _ rest _ found _ ih =>
      cases front with
      | nil =>
          rw [List.nil_append] at split
          subst split
          have solid := is_blank_of_symbol found
          rw [blank c List.mem_cons_self] at solid
          contradiction
      | cons first front =>
          cases split
          exact .symbol found (ih rfl blank)

theorem Lexes.trim_end {source : Text} {tokens : List Token} (lexes : Lexes source tokens) :
    Lexes (Text.trimEnd source) tokens := by
  have split : source = Text.trimEnd source ++ source.rtakeWhile Text.isBlank :=
    List.rdropWhile_append_rtakeWhile.symm
  exact lexes.front split fun c member => List.mem_rtakeWhile_imp member

theorem Lexes.spelled {source : Text} {tokens : List Token}
    (lexes : Lexes (source.map withoutTimesSign) tokens) : Lexes (spelled source) tokens :=
  ((lexes.squeeze_from false).trim_start).trim_end

theorem map_without_times_sign {source : Text} (known : ∀ c ∈ source, isNotation c = true) :
    source.map withoutTimesSign = source := by
  have same : ∀ c ∈ source, withoutTimesSign c = c := by
    intro c member
    have character := known c member
    unfold withoutTimesSign
    rw [if_neg]
    rintro rfl
    contradiction
  rw [List.map_congr_left same, List.map_id']

theorem first_foreign_eq_none_iff {position : Nat} {source : Text} :
    firstForeign? position source = none ↔ ∀ c ∈ source, isNotation c = true := by
  induction source generalizing position with
  | nil => exact iff_of_true rfl (List.forall_mem_nil _)
  | cons c rest ih =>
      rw [firstForeign?, List.forall_mem_cons]
      by_cases known : isNotation c = true
      · rw [if_pos known, ih]
        exact (and_iff_right known).symm
      · rw [if_neg known]
        exact iff_of_false nofun fun all => known all.1

theorem normal_eq_ok_iff {source text : Text} :
    normal source = .ok text ↔ text = spelled source ∧ ∀ c ∈ text, isNotation c = true := by
  unfold normal
  split
  · rename_i foreign
    refine iff_of_false nofun ?_
    rintro ⟨rfl, known⟩
    rw [first_foreign_eq_none_iff.2 known] at foreign
    contradiction
  · rename_i none
    constructor
    · intro normalized
      cases normalized
      exact ⟨rfl, first_foreign_eq_none_iff.1 none⟩
    · rintro ⟨rfl, _⟩
      rfl

/-- The normal form of a text that can be cut has the tokens of the text. -/
theorem tokens_normal {source : Text} {found : List Token}
    (lexes : Lexes (source.map withoutTimesSign) found) :
    normal source = .ok (spelled source) ∧ tokens (spelled source) = .ok found :=
  ⟨normal_eq_ok_iff.2 ⟨rfl, lexes.spelled.characters⟩, tokens_eq_ok_iff.2 lexes.spelled⟩

end Reckoner.Expression
