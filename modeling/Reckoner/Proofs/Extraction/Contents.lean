import Reckoner.Proofs.Expression.Outcome
import Reckoner.Proofs.Expression.Respelling
import Reckoner.Proofs.Extraction.Result
import Reckoner.Proofs.Text.Balance

/-!
# What is found in running text

Cutting a text into pieces misses no digit and no parenthesis: there is a literal among the pieces
exactly if the text has a digit, and the parentheses among the pieces are those of the text. So the
text itself says whether its arithmetic fails for its parentheses.
-/

namespace Reckoner.Extraction

open Expression (Lexes parenthesesMatch)

set_option autoImplicit false

theorem is_operand_of_symbol {c : Char} {token : Token} (found : Token.ofSymbol? c = some token) :
    token.isOperand = false := by
  rcases Expression.symbol_cases found with ⟨_, rfl⟩ | ⟨_, rfl⟩ | ⟨operator, _, rfl⟩
  · rfl
  · rfl
  · cases operator <;> rfl

theorem any_is_digit_dropWhile {test : Char → Bool} (apart : ∀ c, test c = true → c.isDigit = false)
    (rest : Text) : (rest.dropWhile test).any Char.isDigit = rest.any Char.isDigit := by
  induction rest with
  | nil => rfl
  | cons c rest ih =>
      cases passes : test c with
      | true => simp [passes, ih, apart c passes]
      | false => simp [passes]

/-- There is a literal among the tokens if and only if there is a digit in the text. -/
theorem any_is_operand_tokens_of (source : Text) :
    (tokensOf source).any Token.isOperand = source.any Char.isDigit := by
  unfold tokensOf
  fun_induction pieces source with
  | case1 => rfl
  | case2 c rest numeral after literal ih =>
      obtain ⟨first, others, text, digit⟩ :=
        Expression.text_eq_cons (Numeral.well_formed_of_read literal).1
      rw [← Numeral.text_append_of_read literal, text]
      simp [Piece.token?, is_operand_of_numeral, digit]
  | case3 c rest _ symbol found ih =>
      rw [List.any_cons, Expression.is_digit_of_symbol found, ← ih]
      change (symbol.isOperand || _) = _
      rw [is_operand_of_symbol found]
  | case4 rest _ _ ih =>
      rw [List.any_cons, ← ih]
      rfl
  | case5 c rest _ _ _ inWord ih =>
      rw [any_is_digit_dropWhile fun _ => not_digit_of_is_word_character] at ih
      rw [List.any_cons, not_digit_of_is_word_character inWord, ← ih]
      rfl
  | case6 c rest _ _ _ _ blank ih =>
      rw [any_is_digit_dropWhile fun _ => not_digit_of_is_blank] at ih
      rw [List.any_cons, not_digit_of_is_blank blank, ← ih]
      rfl
  | case7 c rest missing _ _ _ _ ih =>
      rw [List.any_cons, Numeral.is_digit_of_read_eq_none missing, ← ih]
      rfl

theorem ne_parenthesis_of_mem_text {numeral : Numeral} (written : numeral.WellFormed) {c : Char}
    (member : c ∈ numeral.text) : c ≠ '(' ∧ c ≠ ')' := by
  rcases Expression.mem_text_cases written member with digit | rfl | rfl
  · exact Text.ne_parenthesis rfl rfl digit
  · decide
  · decide

theorem ne_parenthesis_of_is_word_character {c : Char} (inWord : Text.isWordCharacter c = true) :
    c ≠ '(' ∧ c ≠ ')' :=
  Text.ne_parenthesis (by decide +kernel) (by decide +kernel) inWord

theorem ne_parenthesis_of_is_blank {c : Char} (blank : Text.isBlank c = true) : c ≠ '(' ∧ c ≠ ')' :=
  Text.ne_parenthesis rfl rfl blank

theorem ne_parenthesis_of_not_symbol {c : Char} (missing : Token.ofSymbol? c = none) :
    c ≠ '(' ∧ c ≠ ')' := by
  constructor
  · rintro rfl
    contradiction
  · rintro rfl
    contradiction

/-- The parentheses among the tokens match if and only if those of the text are balanced. -/
theorem parentheses_match_tokens_of (source : Text) (depth : Nat) :
    parenthesesMatch depth (tokensOf source) = true ↔ Text.Balanced depth source := by
  unfold tokensOf
  fun_induction pieces source generalizing depth with
  | case1 => simp [parenthesesMatch, Text.balanced_nil]
  | case2 c rest numeral after literal ih =>
      have others := fun c member => ne_parenthesis_of_mem_text (c := c)
        (Numeral.well_formed_of_read literal).1 member
      rw [← Numeral.text_append_of_read literal, Text.balanced_append_others others, ← ih]
      have figure := Expression.parentheses_match_figure depth (.ofNumeral numeral)
        ((pieces after).filterMap Piece.token?)
      exact iff_of_eq (congrArg (· = true) figure)
  | case3 c rest _ symbol found ih =>
      rcases Expression.symbol_cases found with ⟨rfl, rfl⟩ | ⟨rfl, rfl⟩ | ⟨operator, rfl, rfl⟩
      · rw [Text.balanced_opening, ← ih]
        rfl
      · cases depth with
        | zero =>
            refine iff_of_false ?_ (Text.not_balanced_closing rest)
            simp [Piece.token?, parenthesesMatch, Expression.Terminal.token, Token.bare]
        | succ depth =>
            rw [Text.balanced_closing, ← ih]
            rfl
      · rw [Text.balanced_other (by cases operator <;> decide), ← ih]
        cases operator <;> rfl
  | case4 rest _ _ ih =>
      rw [Text.balanced_other (by decide), ← ih]
      rfl
  | case5 c rest _ _ _ inWord ih =>
      have apart := fun c => ne_parenthesis_of_is_word_character (c := c)
      rw [Text.balanced_other (apart c inWord), ← Text.balanced_dropWhile apart, ← ih]
      rfl
  | case6 c rest _ _ _ _ blank ih =>
      have apart := fun c => ne_parenthesis_of_is_blank (c := c)
      rw [Text.balanced_other (apart c blank), ← Text.balanced_dropWhile apart, ← ih]
      rfl
  | case7 c rest _ missing _ _ _ ih =>
      rw [Text.balanced_other (ne_parenthesis_of_not_symbol missing), ← ih]
      rfl

end Reckoner.Extraction
