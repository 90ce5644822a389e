import Reckoner.Extraction
import Reckoner.Proofs.Expression.Lexing
import Reckoner.Proofs.Text.Class

/-!
# The pieces of running text

Each token of running text is of one of few shapes, and a text that begins with a literal, a symbol,
a run of blanks or a word has it as its first piece, whatever stands behind it.
-/

namespace Reckoner.Extraction

set_option autoImplicit false

inductive Found : Token → Prop
  | literal {numeral : Numeral} : numeral.WellFormed → Found (.ofNumeral numeral)
  | symbol {c : Char} {token : Token} : Token.ofSymbol? c = some token → Found token
  | timesSign : Found (.bare .operator [Text.timesSign])
  | word {c : Char} {rest : Text} : (∀ other ∈ c :: rest, Text.isWordCharacter other = true) →
      Found (.bare .word (c :: rest))
  | blank {c : Char} {rest : Text} : Text.isBlank c = true → Found (.bare .blank (c :: rest))

theorem found_cons {first : Token} {rest : List Piece} (found : Found first)
    (others : ∀ token, Piece.token token ∈ rest → Found token) :
    ∀ token, Piece.token token ∈ Piece.token first :: rest → Found token := by
  intro token member
  rcases List.mem_cons.1 member with same | member
  · cases same
    exact found
  · exact others token member

theorem found_of_mem_pieces (source : Text) :
    ∀ token, Piece.token token ∈ pieces source → Found token := by
  fun_induction pieces source with
  | case1 =>
      intro token member
      contradiction
  | case2 c rest numeral after literal ih =>
      exact found_cons (.literal (Numeral.well_formed_of_read literal).1) ih
  | case3 c rest _ symbol found ih => exact found_cons (.symbol found) ih
  | case4 rest _ _ ih => exact found_cons .timesSign ih
  | case5 c rest _ _ _ inWord ih =>
      apply found_cons _ ih
      apply Found.word
      intro other member
      rcases List.mem_cons.1 member with rfl | member
      · exact inWord
      · exact List.all_eq_true.1 List.all_takeWhile other member
  | case6 c rest _ _ _ _ blank ih => exact found_cons (.blank blank) ih
  | case7 c rest _ _ _ _ _ ih =>
      intro token member
      rcases List.mem_cons.1 member with stray | member
      · contradiction
      · exact ih token member

theorem found_of_mem_tokens_of {source : Text} {token : Token} (member : token ∈ tokensOf source) :
    Found token := by
  obtain ⟨piece, inside, same⟩ := List.mem_filterMap.1 member
  cases piece with
  | stray c => contradiction
  | token other =>
      cases Option.some.inj same
      exact found_of_mem_pieces source _ inside

section Limit

variable {limit : Int} {raw : Text} (short : (raw.length : Int) ≤ limit)

include short

theorem scan_of_short : scan limit raw = .ok (tokensOf raw) := by
  rw [scan, if_neg (by omega)]

theorem of_text_of_short :
    ofText limit raw = .ok ⟨arithmetic (tokensOf raw), findUnit (tokensOf raw)⟩ := by
  rw [ofText, scan_of_short short]
  rfl

end Limit

theorem is_arithmetic_of_is_operand {token : Token} (operand : token.isOperand = true) :
    isArithmetic token = true := by
  unfold Token.isOperand at operand
  split at operand
  · rename_i kind
    rw [isArithmetic, kind]
  · rename_i kind
    rw [isArithmetic, kind]
  · contradiction

theorem is_word_character_of_symbol {c : Char} {token : Token}
    (found : Token.ofSymbol? c = some token) : Text.isWordCharacter c = false := by
  rcases Expression.symbol_cases found with ⟨rfl, _⟩ | ⟨rfl, _⟩ | ⟨operator, rfl, _⟩
  · decide +kernel
  · decide +kernel
  · cases operator <;> decide +kernel

theorem not_symbol_of_is_word_character {c : Char} (inWord : Text.isWordCharacter c = true) :
    Token.ofSymbol? c = none := by
  cases found : Token.ofSymbol? c with
  | none => rfl
  | some token =>
      rw [is_word_character_of_symbol found] at inWord
      contradiction

theorem not_digit_of_is_word_character {c : Char} (inWord : Text.isWordCharacter c = true) :
    c.isDigit = false := by
  rw [Bool.eq_false_iff]
  intro digit
  rw [Text.is_word_character_of_is_digit digit] at inWord
  contradiction

theorem not_blank_of_is_word_character {c : Char} (inWord : Text.isWordCharacter c = true) :
    Text.isBlank c = false := by
  rw [Bool.eq_false_iff]
  intro blank
  rw [Text.is_word_character_of_is_blank blank] at inWord
  contradiction

theorem pieces_literal {numeral : Numeral} {rest : Text} (written : numeral.WellFormed)
    (stops : numeral.StopsBefore rest) :
    pieces (numeral.text ++ rest) = .token (.ofNumeral numeral) :: pieces rest := by
  have read := Numeral.read_text_append written stops
  obtain ⟨c, others, text, _⟩ := Expression.text_eq_cons written
  rw [text, List.cons_append] at read ⊢
  rw [pieces]
  split
  · rename_i found after literal
    rw [read] at literal
    cases literal
    rfl
  · rename_i missing
    rw [read] at missing
    contradiction

theorem pieces_of_not_digit {c : Char} {rest : Text} (other : c.isDigit = false) :
    pieces (c :: rest) =
      match Token.ofSymbol? c with
      | some symbol => .token symbol :: pieces rest
      | none =>
          if c = Text.timesSign then .token (.bare .operator [c]) :: pieces rest
          else if Text.isWordCharacter c then
            .token (.bare .word (c :: rest.takeWhile Text.isWordCharacter))
              :: pieces (rest.dropWhile Text.isWordCharacter)
          else if Text.isBlank c then
            .token (.bare .blank (c :: rest.takeWhile Text.isBlank))
              :: pieces (rest.dropWhile Text.isBlank)
          else .stray c :: pieces rest := by
  have missing : Numeral.read? (c :: rest) = none := Numeral.read_eq_none other
  rw [pieces]
  split
  · rename_i literal
    rw [missing] at literal
    contradiction
  · rfl

theorem pieces_symbol {c : Char} {token : Token} (found : Token.ofSymbol? c = some token)
    (rest : Text) : pieces (c :: rest) = .token token :: pieces rest := by
  rw [pieces_of_not_digit (Expression.is_digit_of_symbol found), found]

theorem pieces_word {c : Char} {others rest : Text}
    (inWord : ∀ other ∈ c :: others, Text.isWordCharacter other = true)
    (stop : ∀ next ∈ rest.head?, Text.isWordCharacter next = false) :
    pieces (c :: others ++ rest) = .token (.bare .word (c :: others)) :: pieces rest := by
  have first := inWord c List.mem_cons_self
  have followers := fun other member => inWord other (List.mem_cons_of_mem _ member)
  have notTimes : c ≠ Text.timesSign := by
    rintro rfl
    contradiction
  rw [List.cons_append, pieces_of_not_digit (not_digit_of_is_word_character first),
    not_symbol_of_is_word_character first]
  dsimp only
  rw [if_neg notTimes, if_pos first, takeWhile_append_of_stop followers stop,
    dropWhile_append_of_stop followers stop]

theorem not_digit_of_is_blank {c : Char} (blank : Text.isBlank c = true) : c.isDigit = false := by
  rw [Bool.eq_false_iff]
  intro digit
  rw [Text.is_blank_of_is_digit digit] at blank
  contradiction

theorem not_symbol_of_is_blank {c : Char} (blank : Text.isBlank c = true) :
    Token.ofSymbol? c = none := by
  cases found : Token.ofSymbol? c with
  | none => rfl
  | some token =>
      rw [Expression.is_blank_of_symbol found] at blank
      contradiction

theorem pieces_times_sign (rest : Text) :
    pieces (Text.timesSign :: rest) =
      .token (.bare .operator [Text.timesSign]) :: pieces rest := by
  rw [pieces_of_not_digit rfl]
  rfl

theorem pieces_blank {c : Char} {others rest : Text}
    (blank : ∀ other ∈ c :: others, Text.isBlank other = true)
    (stop : ∀ next ∈ rest.head?, Text.isBlank next = false) :
    pieces (c :: others ++ rest) = .token (.bare .blank (c :: others)) :: pieces rest := by
  have first := blank c List.mem_cons_self
  have followers := fun other member => blank other (List.mem_cons_of_mem _ member)
  have notTimes : c ≠ Text.timesSign := by
    rintro rfl
    contradiction
  have notWord : ¬Text.isWordCharacter c = true := by
    rw [Text.is_word_character_of_is_blank first]
    exact Bool.false_ne_true
  rw [List.cons_append, pieces_of_not_digit (not_digit_of_is_blank first),
    not_symbol_of_is_blank first]
  dsimp only
  rw [if_neg notTimes, if_neg notWord, if_pos first, takeWhile_append_of_stop followers stop,
    dropWhile_append_of_stop followers stop]

theorem pieces_space {rest : Text} (stop : ∀ next ∈ rest.head?, Text.isBlank next = false) :
    pieces (' ' :: rest) = .token (.bare .blank [' ']) :: pieces rest :=
  @pieces_blank ' ' [] rest (List.forall_mem_singleton.2 rfl) stop

theorem pieces_stray {c : Char} (noDigit : c.isDigit = false) (noSymbol : Token.ofSymbol? c = none)
    (noTimes : c ≠ Text.timesSign) (noWord : Text.isWordCharacter c = false)
    (noBlank : Text.isBlank c = false) (rest : Text) :
    pieces (c :: rest) = .stray c :: pieces rest := by
  rw [pieces_of_not_digit noDigit, noSymbol]
  dsimp only
  rw [if_neg noTimes, noWord, if_neg Bool.false_ne_true, noBlank, if_neg Bool.false_ne_true]

end Reckoner.Extraction
