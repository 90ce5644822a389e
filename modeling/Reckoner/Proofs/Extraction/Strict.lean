import Reckoner.Proofs.Extraction.Evaluation

/-!
# Expressions as running text

A text that can be cut as an expression is also running text, and its arithmetic is the expression
itself, spelled with single spaces: the same tokens are found in it, and no word.
-/

namespace Reckoner.Extraction

open Expression (Lexes withoutTimesSign)

set_option autoImplicit false

theorem without_times_sign_of_ne {c : Char} (other : c ≠ Text.timesSign) :
    withoutTimesSign c = c :=
  if_neg other

theorem is_blank_without_times_sign (c : Char) :
    Text.isBlank (withoutTimesSign c) = Text.isBlank c := by
  by_cases times : c = Text.timesSign
  · rw [times]
    rfl
  · rw [without_times_sign_of_ne times]

/-- Only the multiplication sign is respelled, and not as anything that a literal consists of. -/
theorem eq_of_without_times_sign {c other : Char} (respelled : withoutTimesSign c = other)
    (noStar : other ≠ '*') : c = other := by
  unfold withoutTimesSign at respelled
  split at respelled
  · exact absurd respelled.symm noStar
  · exact respelled

theorem stops_before_without_times_sign {numeral : Numeral} {rest : Text}
    (stops : numeral.StopsBefore rest) : numeral.StopsBefore (rest.map withoutTimesSign) := by
  rcases stops with percent | ⟨noPercent, noDigit, noFraction⟩
  · exact .inl percent
  · refine .inr ⟨fun percent => ?_, fun c member => ?_, fun empty begins => ?_⟩
    · rw [List.head?_map, Option.map_eq_some_iff] at percent
      obtain ⟨first, head, same⟩ := percent
      apply noPercent
      rw [head, eq_of_without_times_sign same (by decide)]
    · rw [List.head?_map, Option.mem_def, Option.map_eq_some_iff] at member
      obtain ⟨first, head, rfl⟩ := member
      by_cases times : first = Text.timesSign
      · rw [times]
        rfl
      · rw [without_times_sign_of_ne times]
        exact noDigit first head
    · obtain ⟨c, after, same, digit⟩ := begins
      obtain ⟨first, tail, rfl, point, respelled⟩ := List.map_eq_cons_iff.1 same
      obtain ⟨next, others, rfl, figure, _⟩ := List.map_eq_cons_iff.1 respelled
      have noStar : c ≠ '*' := by
        rintro rfl
        contradiction
      apply noFraction empty
      refine ⟨c, others, ?_, digit⟩
      rw [eq_of_without_times_sign point (by decide), eq_of_without_times_sign figure noStar]

theorem not_notation_of_is_word_character {c : Char} (inWord : Text.isWordCharacter c = true) :
    Expression.isNotation c = false := by
  have signs : "+-*/().%".toList.any Text.isWordCharacter = false := by decide +kernel
  have noSign : c ∉ "+-*/().%".toList := by
    intro member
    exact List.any_eq_false.1 signs c member inWord
  simp only [Expression.isNotation, not_digit_of_is_word_character inWord,
    not_blank_of_is_word_character inWord, Bool.or_false, Bool.false_or]
  simpa using noSign

/-- Among the pieces are these tokens, spelled as the notation has them, and apart from blanks and
stray characters nothing else. -/
def Consists (pieces : List Piece) (found : List Token) : Prop :=
  ((pieces.filterMap Piece.token?).filter isArithmetic).map inNotation = found ∧
    ∀ token ∈ pieces.filterMap Piece.token?, token.kind ≠ .word

theorem Consists.cons {pieces : List Piece} {token spelled : Token} {others : List Token}
    (arithmetic : isArithmetic token = true) (same : inNotation token = spelled)
    (consists : Consists pieces others) :
    Consists (.token token :: pieces) (spelled :: others) := by
  obtain ⟨found, wordless⟩ := consists
  constructor
  · change ((token :: _).filter isArithmetic).map inNotation = _
    rw [List.filter_cons_of_pos arithmetic, List.map_cons, found, same]
  · apply List.forall_mem_cons.2 ⟨_, wordless⟩
    intro word
    simp [isArithmetic, word] at arithmetic

theorem Consists.blank {pieces : List Piece} {found : List Token} (text : Text)
    (consists : Consists pieces found) :
    Consists (.token (.bare .blank text) :: pieces) found := by
  obtain ⟨same, wordless⟩ := consists
  constructor
  · exact same
  · apply List.forall_mem_cons.2 ⟨_, wordless⟩
    intro word
    contradiction

theorem is_arithmetic_of_symbol {c : Char} {token : Token}
    (found : Token.ofSymbol? c = some token) : isArithmetic token = true := by
  rcases Expression.symbol_cases found with ⟨_, rfl⟩ | ⟨_, rfl⟩ | ⟨operator, _, rfl⟩
  · rfl
  · rfl
  · cases operator <;> rfl

/-- What an expression is cut into is what is found in it as running text. -/
theorem consists_of_lexes {source : Text} {found : List Token}
    (lexes : Lexes (source.map withoutTimesSign) found) : Consists (pieces source) found := by
  fun_induction pieces source generalizing found with
  | case1 => exact ⟨Lexes.done.unique lexes, by simp⟩
  | case2 c rest numeral after literal ih =>
      obtain ⟨written, stops⟩ := Numeral.well_formed_of_read literal
      have known := fun c member => Expression.is_notation_of_mem_text written (c := c) member
      rw [← Numeral.text_append_of_read literal, List.map_append,
        Expression.map_without_times_sign known] at lexes
      obtain ⟨others, rfl, behind⟩ :=
        lexes.behind_literal written (stops_before_without_times_sign stops)
      apply (ih behind).cons (is_arithmetic_of_numeral numeral)
      exact in_notation_of_other (text_ne_times_sign written)
  | case3 c rest _ symbol symbolFound ih =>
      have noTimes : c ≠ Text.timesSign := by
        rintro rfl
        contradiction
      rw [List.map_cons, without_times_sign_of_ne noTimes] at lexes
      obtain ⟨others, rfl, behind⟩ := lexes.behind_symbol symbolFound
      apply (ih behind).cons (is_arithmetic_of_symbol symbolFound)
      exact in_notation_of_other (symbol_ne_times_sign symbolFound)
  | case4 rest _ _ ih =>
      have star : Token.ofSymbol? (withoutTimesSign Text.timesSign) =
        some (.bare .operator ['*']) := rfl
      obtain ⟨others, rfl, behind⟩ := lexes.behind_symbol star
      exact (ih behind).cons rfl rfl
  | case5 c rest _ _ times inWord ih =>
      have character := lexes.characters (withoutTimesSign c) (by simp)
      rw [without_times_sign_of_ne times, not_notation_of_is_word_character inWord] at character
      contradiction
  | case6 c rest _ _ _ _ blank ih =>
      have behind := (lexes.behind_blank (by rwa [is_blank_without_times_sign])).trim_start
      have respelled : Text.isBlank ∘ withoutTimesSign = Text.isBlank :=
        funext is_blank_without_times_sign
      rw [Text.trimStart, List.dropWhile_map, respelled] at behind
      exact (ih behind).blank _
  | case7 c rest missing noSymbol times _ solid ih =>
      rw [List.map_cons, without_times_sign_of_ne times] at lexes
      rcases lexes.head_cases with blank | digit | ⟨symbol, found⟩
      · contradiction
      · rw [Numeral.is_digit_of_read_eq_none missing] at digit
        contradiction
      · rw [noSymbol] at found
        contradiction

theorem leading_word_eq_none {tokens : List Token}
    (wordless : ∀ token ∈ tokens, token.kind ≠ .word) : leadingWord? tokens = none := by
  induction tokens with
  | nil => rfl
  | cons token rest ih =>
      obtain ⟨first, others⟩ := List.forall_mem_cons.1 wordless
      unfold leadingWord?
      split
      · exact ih others
      · contradiction
      · rfl

section Strict

variable {source text : Text} {found : List Token}

theorem find_unit_of_strict (normalized : Expression.normal source = .ok text)
    (read : Expression.tokens text = .ok found) : findUnit (tokensOf source) = none := by
  have consists := consists_of_lexes (Expression.lexes_of_normal normalized read)
  apply leading_word_eq_none
  intro token member
  exact consists.2 token ((List.dropWhile_suffix _).subset (List.mem_of_mem_drop member))

/-- The arithmetic of an expression comes to what the expression comes to. -/
theorem evaluate_of_strict (normalized : Expression.normal source = .ok text)
    (read : Expression.tokens text = .ok found) (figured : source.any Char.isDigit = true) :
    Expression.evaluate (arithmetic (tokensOf source)) = Expression.evaluate source := by
  have consists := consists_of_lexes (Expression.lexes_of_normal normalized read)
  obtain ⟨spaced, spacedNormal, spacedRead⟩ := read_arithmetic figured
  rw [show arithmeticTokens source = found from consists.1] at spacedRead
  exact Expression.evaluate_eq_of_tokens spacedNormal spacedRead normalized read

end Strict

end Reckoner.Extraction
