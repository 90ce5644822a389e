import Reckoner.Proofs.Expression.Writing

/-!
# The tokens of the text before its normal form

A text is cut in one way only, so what is known of its first token says how the rest is cut. This
leads back from the normal form: where it can be cut, the text it was made of can be cut too, and
into the same tokens.
-/

namespace Reckoner.Expression

set_option autoImplicit false

section Inversion

variable {c : Char} {rest : Text} {tokens : List Token}

theorem Lexes.unique {source : Text} {others : List Token} (lexes : Lexes source tokens)
    (again : Lexes source others) : tokens = others := by
  have read := tokens_from_of_lexes lexes 0
  rw [tokens_from_of_lexes again 0] at read
  exact (Except.ok.inj read).symm

theorem Lexes.behind_blank (blank : Text.isBlank c = true) (lexes : Lexes (c :: rest) tokens) :
    Lexes rest tokens := by
  have read := tokens_from_of_lexes lexes 0
  rw [tokens_from_blank blank] at read
  exact lexes_of_tokens_from read

theorem lexes_of_map_cons {position : Nat} {first : Token}
    (read : (tokensFrom position rest).map (first :: ·) = .ok tokens) :
    ∃ others, tokens = first :: others ∧ Lexes rest others := by
  cases run : tokensFrom position rest with
  | error fault =>
      rw [run] at read
      contradiction
  | ok others =>
      rw [run] at read
      cases read
      exact ⟨others, rfl, lexes_of_tokens_from run⟩

theorem Lexes.behind_literal {numeral : Numeral} (written : numeral.WellFormed)
    (stops : numeral.StopsBefore rest) (lexes : Lexes (numeral.text ++ rest) tokens) :
    ∃ others, tokens = .ofNumeral numeral :: others ∧ Lexes rest others := by
  have read := tokens_from_of_lexes lexes 0
  rw [tokens_from_literal written stops] at read
  exact lexes_of_map_cons read

theorem Lexes.behind_symbol {symbol : Token} (found : Token.ofSymbol? c = some symbol)
    (lexes : Lexes (c :: rest) tokens) :
    ∃ others, tokens = symbol :: others ∧ Lexes rest others := by
  have read := tokens_from_of_lexes lexes 0
  rw [tokens_from_symbol found] at read
  exact lexes_of_map_cons read

theorem Lexes.head_cases (lexes : Lexes (c :: rest) tokens) :
    Text.isBlank c = true ∨ c.isDigit = true ∨ ∃ symbol, Token.ofSymbol? c = some symbol := by
  generalize same : c :: rest = source at lexes
  cases lexes with
  | done => contradiction
  | blank blank =>
      cases same
      exact .inl blank
  | literal written =>
      obtain ⟨first, others, text, digit⟩ := text_eq_cons written
      rw [text, List.cons_append] at same
      cases same
      exact .inr (.inl digit)
  | symbol found =>
      cases same
      exact .inr (.inr ⟨_, found⟩)

end Inversion

/-- Collapsing the runs of blanks makes no text one that can be cut. -/
theorem tokens_from_of_squeeze_from {source : Text} {tokens : List Token} {inRun : Bool}
    (lexes : Lexes (Text.squeezeFrom inRun source) tokens) (position : Nat) :
    tokensFrom position source = .ok tokens := by
  fun_induction tokensFrom position source generalizing inRun tokens with
  | case1 => rw [lexes.unique .done]
  | case2 position c rest blank ih =>
      rw [Text.squeezeFrom, if_pos blank] at lexes
      cases inRun with
      | true => exact ih lexes
      | false => exact ih (lexes.behind_blank rfl)
  | case3 position c rest _ numeral after literal ih =>
      obtain ⟨written, stops⟩ := Numeral.well_formed_of_read literal
      rw [← Numeral.text_append_of_read literal, squeeze_from_literal written] at lexes
      obtain ⟨others, rfl, behind⟩ := lexes.behind_literal written (stops_before_squeeze_from stops)
      rw [ih behind]
      rfl
  | case4 position c rest solid _ token found ih =>
      rw [squeeze_from_solid (by simpa using solid)] at lexes
      obtain ⟨others, rfl, behind⟩ := lexes.behind_symbol found
      rw [ih behind]
      rfl
  | case5 position c rest solid missing noSymbol =>
      rw [squeeze_from_solid (by simpa using solid)] at lexes
      rcases lexes.head_cases with blank | digit | ⟨symbol, found⟩
      · contradiction
      · rw [Numeral.is_digit_of_read_eq_none missing] at digit
        contradiction
      · rw [noSymbol] at found
        contradiction

theorem stops_before_append_blanks {numeral : Numeral} {rest blanks : Text}
    (stops : numeral.StopsBefore rest) (blank : ∀ c ∈ blanks, Text.isBlank c = true) :
    numeral.StopsBefore (rest ++ blanks) := by
  rcases stops with percent | ⟨noPercent, noDigit, noFraction⟩
  · exact .inl percent
  · cases rest with
    | nil =>
        cases blanks with
        | nil => exact .inr ⟨noPercent, noDigit, noFraction⟩
        | cons c blanks => exact stops_before_blank (blank c List.mem_cons_self)
    | cons first rest =>
        refine .inr ⟨noPercent, noDigit, fun empty begins => ?_⟩
        obtain ⟨c, after, same, digit⟩ := begins
        cases rest with
        | nil =>
            -- The point would have its digit among the blanks.
            cases same
            have space := blank c List.mem_cons_self
            rw [Text.is_blank_of_is_digit digit] at space
            exact absurd space Bool.false_ne_true
        | cons next rest =>
            cases same
            exact noFraction empty ⟨c, rest, rfl, digit⟩

theorem Lexes.before_blanks {front blanks : Text} {tokens : List Token}
    (lexes : Lexes front tokens) (blank : ∀ c ∈ blanks, Text.isBlank c = true) :
    Lexes (front ++ blanks) tokens := by
  induction lexes with
  | done =>
      have behind := Lexes.done.behind_blanks blank
      rwa [List.append_nil] at behind
  | blank first _ ih => exact .blank first ih
  | literal written stops _ ih =>
      rw [List.append_assoc]
      exact .literal written (stops_before_append_blanks stops blank) ih
  | symbol found _ ih => exact .symbol found ih

theorem Lexes.of_trim {source : Text} {tokens : List Token}
    (lexes : Lexes (Text.trim source) tokens) : Lexes source tokens := by
  have starting : ∀ c ∈ source.takeWhile Text.isBlank, Text.isBlank c = true := by
    intro c member
    exact List.all_eq_true.1 List.all_takeWhile c member
  have ending : ∀ c ∈ (Text.trimStart source).rtakeWhile Text.isBlank, Text.isBlank c = true := by
    intro c member
    exact List.mem_rtakeWhile_imp member
  have started := lexes.before_blanks ending
  rw [Text.trim, show Text.trimEnd (Text.trimStart source) =
    (Text.trimStart source).rdropWhile Text.isBlank from rfl,
    List.rdropWhile_append_rtakeWhile] at started
  have whole := started.behind_blanks starting
  rwa [Text.trimStart, List.takeWhile_append_dropWhile] at whole

/-- What the normal form of a text is cut into, the text itself is cut into. -/
theorem lexes_of_normal {source text : Text} {found : List Token}
    (normalized : normal source = .ok text) (read : tokens text = .ok found) :
    Lexes (source.map withoutTimesSign) found := by
  obtain ⟨rfl, _⟩ := normal_eq_ok_iff.1 normalized
  have squeezed := (tokens_eq_ok_iff.1 read).of_trim
  exact lexes_of_tokens_from (tokens_from_of_squeeze_from squeezed 0)

end Reckoner.Expression
