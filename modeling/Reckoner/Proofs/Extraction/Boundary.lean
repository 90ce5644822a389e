import Reckoner.Proofs.Expression.Writing
import Reckoner.Proofs.Extraction.Pieces

/-!
# From running text to the evaluation

The arithmetic of a text is handed on as a text of its own and cut into tokens once more. A single
space stands between each two tokens, and no literal goes on across a space, so the second cut finds
the tokens of the first again.
-/

namespace Reckoner.Extraction

open Expression (Lexes)

set_option autoImplicit false

/-- The token as the notation has it, with its multiplication sign as `*`. -/
def inNotation (token : Token) : Token :=
  { token with text := notated token }

theorem in_notation_of_other {token : Token} (other : token.text ≠ [Text.timesSign]) :
    inNotation token = token := by
  rw [inNotation, notated, if_neg other]

theorem text_ne_times_sign {numeral : Numeral} (written : numeral.WellFormed) :
    numeral.text ≠ [Text.timesSign] := by
  obtain ⟨c, rest, text, digit⟩ := Expression.text_eq_cons written
  rw [text]
  rintro same
  cases same
  contradiction

theorem symbol_ne_times_sign {c : Char} {token : Token} (found : Token.ofSymbol? c = some token) :
    token.text ≠ [Text.timesSign] := by
  rw [Token.text_of_symbol found]
  rintro same
  cases same
  contradiction

theorem lexes_notated {token : Token} (found : Found token) (arithmetic : isArithmetic token = true)
    {rest : Text} {tokens : List Token} (apart : ∀ c ∈ rest.head?, Text.isBlank c = true)
    (lexes : Lexes rest tokens) : Lexes (notated token ++ rest) (inNotation token :: tokens) := by
  cases found with
  | @literal numeral written =>
      have other : (Token.ofNumeral numeral).text ≠ [Text.timesSign] := text_ne_times_sign written
      rw [in_notation_of_other other, notated, if_neg other]
      exact .literal written (Expression.stops_before_of_apart apart) lexes
  | @symbol c token found =>
      have other := symbol_ne_times_sign found
      rw [in_notation_of_other other, notated, if_neg other, Token.text_of_symbol found]
      exact .symbol found lexes
  | timesSign => exact .symbol rfl lexes
  | word => contradiction
  | blank => contradiction

/-- The tokens of the arithmetic, each behind a single space, are cut out again. -/
theorem lexes_joined {tokens : List Token} (found : ∀ token ∈ tokens, Found token)
    (arithmetic : ∀ token ∈ tokens, isArithmetic token = true) :
    Lexes (Text.joined [' '] (tokens.map notated)) (tokens.map inNotation) := by
  apply Expression.lexes_spaced
  intro token member rest others apart lexes
  exact lexes_notated (found token member) (arithmetic token member) apart lexes

theorem characters_of_lexes {source : Text} {tokens : List Token} (lexes : Lexes source tokens) :
    Lexes (source.map Expression.withoutTimesSign) tokens := by
  rw [Expression.map_without_times_sign lexes.characters]
  exact lexes

/-- A text within the limit that holds a number hands on arithmetic that is cut into just its own
tokens, words and blanks left out: the same kinds, texts and values in the same order. -/
theorem arithmetic_is_read_back {limit : Int} {raw : Text} (short : (raw.length : Int) ≤ limit)
    (figured : (tokensOf raw).any Token.isOperand = true) :
    scan limit raw = .ok (tokensOf raw) ∧
      ∃ extraction text, ofText limit raw = .ok extraction ∧
        Expression.normal extraction.expression = .ok text ∧
        Expression.tokens text = .ok (((tokensOf raw).filter isArithmetic).map inNotation) := by
  have scanned : scan limit raw = .ok (tokensOf raw) := by
    rw [scan, if_neg (by omega)]
  have lexes : Lexes (arithmetic (tokensOf raw))
      (((tokensOf raw).filter isArithmetic).map inNotation) := by
    rw [arithmetic, if_pos figured]
    apply lexes_joined
    · intro token member
      exact found_of_mem_tokens_of (List.mem_filter.1 member).1
    · intro token member
      exact (List.mem_filter.1 member).2
  obtain ⟨normalized, read⟩ := Expression.tokens_normal (characters_of_lexes lexes)
  refine ⟨scanned, ⟨arithmetic (tokensOf raw), findUnit (tokensOf raw)⟩, _, ?_, normalized, read⟩
  rw [ofText, scanned]
  rfl

/-- Numbers that a stray point keeps apart stay apart, and the capital X is read as `*`. -/
theorem stray_point_keeps_numbers_apart :
    ∃ extraction text found, ofText 10 "1.2.3%kgX5".toList = .ok extraction ∧
      Expression.normal extraction.expression = .ok text ∧ Expression.tokens text = .ok found ∧
      found.map Token.text = [['1', '.', '2'], ['3', '%'], ['*'], ['5']] := by
  have short : ("1.2.3%kgX5".toList.length : Int) ≤ 10 := by decide
  obtain ⟨_, extraction, text, extracted, normalized, read⟩ :=
    arithmetic_is_read_back short (by decide +kernel)
  exact ⟨extraction, text, _, extracted, normalized, read, by decide +kernel⟩

end Reckoner.Extraction
