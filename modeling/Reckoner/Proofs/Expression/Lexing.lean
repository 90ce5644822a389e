import Reckoner.Expression.Lexeme
import Reckoner.Expression.Normal
import Reckoner.Proofs.Expression.Grammar
import Reckoner.Proofs.Token.Literal

/-!
# Cutting a text into tokens

How a text is cut does not depend on where it stands in a longer one, so it is stated as a relation
between a text and its tokens. Cutting succeeds exactly where the relation holds, and the tokens are
then terminals as they are read.
-/

namespace Reckoner.Expression

set_option autoImplicit false

inductive Lexes : Text → List Token → Prop
  | done : Lexes [] []
  | blank {c : Char} {rest : Text} {tokens : List Token} :
      Text.isBlank c = true → Lexes rest tokens → Lexes (c :: rest) tokens
  | literal {numeral : Numeral} {rest : Text} {tokens : List Token} :
      numeral.WellFormed → numeral.StopsBefore rest → Lexes rest tokens →
      Lexes (numeral.text ++ rest) (.ofNumeral numeral :: tokens)
  | symbol {c : Char} {token : Token} {rest : Text} {tokens : List Token} :
      Token.ofSymbol? c = some token → Lexes rest tokens → Lexes (c :: rest) (token :: tokens)

theorem symbol_cases {c : Char} {token : Token} (found : Token.ofSymbol? c = some token) :
    (c = '(' ∧ token = Terminal.opening.token) ∨ (c = ')' ∧ token = Terminal.closing.token) ∨
      ∃ operator : Operator, c = operator.char ∧ token = operator.token := by
  unfold Token.ofSymbol? at found
  split at found
  · rename_i opening
    cases found
    exact .inl ⟨opening, by rw [opening]; rfl⟩
  · split at found
    · rename_i closing
      cases found
      exact .inr (.inl ⟨closing, by rw [closing]; rfl⟩)
    · split at found
      · rename_i binary
        cases found
        simp only [Token.binarySymbols, List.contains_eq_mem, List.mem_cons, List.cons.injEq,
          and_true, List.not_mem_nil, or_false, decide_eq_true_eq] at binary
        rcases binary with rfl | rfl | rfl | rfl
        · exact .inr (.inr ⟨.plus, rfl, rfl⟩)
        · exact .inr (.inr ⟨.minus, rfl, rfl⟩)
        · exact .inr (.inr ⟨.times, rfl, rfl⟩)
        · exact .inr (.inr ⟨.divide, rfl, rfl⟩)
      · contradiction

theorem is_digit_of_symbol {c : Char} {token : Token} (found : Token.ofSymbol? c = some token) :
    c.isDigit = false := by
  rcases symbol_cases found with ⟨rfl, _⟩ | ⟨rfl, _⟩ | ⟨operator, rfl, _⟩
  · rfl
  · rfl
  · cases operator <;> rfl

theorem is_blank_of_symbol {c : Char} {token : Token} (found : Token.ofSymbol? c = some token) :
    Text.isBlank c = false := by
  rcases symbol_cases found with ⟨rfl, _⟩ | ⟨rfl, _⟩ | ⟨operator, rfl, _⟩
  · rfl
  · rfl
  · cases operator <;> rfl

theorem mem_text_cases {numeral : Numeral} (written : numeral.WellFormed) {c : Char}
    (member : c ∈ numeral.text) : c.isDigit = true ∨ c = '.' ∨ c = '%' := by
  unfold Numeral.text Numeral.fractionText Numeral.percentText at member
  rcases List.mem_append.1 member with whole | member
  · exact .inl (written.whole_digits c whole)
  · rcases List.mem_append.1 member with fraction | percent
    · split at fraction
      · contradiction
      · rcases List.mem_cons.1 fraction with point | digit
        · exact .inr (.inl point)
        · exact .inl (written.fraction_digits c digit)
    · split at percent
      · exact .inr (.inr (List.mem_singleton.1 percent))
      · contradiction

theorem is_blank_of_mem_text {numeral : Numeral} (written : numeral.WellFormed) {c : Char}
    (member : c ∈ numeral.text) : Text.isBlank c = false := by
  rcases mem_text_cases written member with digit | rfl | rfl
  · exact Text.is_blank_of_is_digit digit
  · rfl
  · rfl

theorem text_eq_cons {numeral : Numeral} (written : numeral.WellFormed) :
    ∃ c rest, numeral.text = c :: rest ∧ c.isDigit = true := by
  cases whole : numeral.whole with
  | nil => exact absurd whole written.whole_ne_nil
  | cons c others =>
      have member : c ∈ numeral.whole := by
        rw [whole]
        exact List.mem_cons_self
      refine ⟨c, others ++ (Numeral.fractionText numeral.fraction ++
        Numeral.percentText numeral.isPercent), ?_, written.whole_digits c member⟩
      rw [Numeral.text, whole, List.cons_append]

theorem tokens_from_blank {c : Char} (blank : Text.isBlank c = true) (position : Nat)
    (rest : Text) :
    tokensFrom position (c :: rest) = tokensFrom (position + 1) rest := by
  rw [tokensFrom, if_pos blank]

theorem tokens_from_literal {numeral : Numeral} {rest : Text} (written : numeral.WellFormed)
    (stops : numeral.StopsBefore rest) (position : Nat) :
    tokensFrom position (numeral.text ++ rest) =
      (tokensFrom (position + numeral.text.length) rest).map (Token.ofNumeral numeral :: ·) := by
  have read := Numeral.read_text_append written stops
  obtain ⟨c, others, text, digit⟩ := text_eq_cons written
  have notBlank : Text.isBlank c = false := Text.is_blank_of_is_digit digit
  have shape : numeral.text ++ rest = c :: (others ++ rest) := by
    rw [text, List.cons_append]
  rw [shape] at read ⊢
  rw [tokensFrom, if_neg (by simp [notBlank])]
  split
  · rename_i found after literal
    rw [read] at literal
    cases literal
    rfl
  · rename_i missing
    rw [read] at missing
    contradiction

theorem tokens_from_symbol {c : Char} {token : Token} (found : Token.ofSymbol? c = some token)
    (position : Nat) (rest : Text) :
    tokensFrom position (c :: rest) = (tokensFrom (position + 1) rest).map (token :: ·) := by
  have missing : Numeral.read? (c :: rest) = none :=
    Numeral.read_eq_none (is_digit_of_symbol found)
  rw [tokensFrom, if_neg (by simp [is_blank_of_symbol found])]
  split
  · rename_i literal
    rw [missing] at literal
    contradiction
  · rw [found]

theorem tokens_from_of_lexes {source : Text} {tokens : List Token} (lexes : Lexes source tokens)
    (position : Nat) : tokensFrom position source = .ok tokens := by
  induction lexes generalizing position with
  | done => rw [tokensFrom]
  | blank blank _ ih => rw [tokens_from_blank blank, ih]
  | literal written stops _ ih =>
      rw [tokens_from_literal written stops, ih]
      rfl
  | symbol found _ ih =>
      rw [tokens_from_symbol found, ih]
      rfl

theorem lexes_of_tokens_from {position : Nat} {source : Text} {tokens : List Token}
    (read : tokensFrom position source = .ok tokens) : Lexes source tokens := by
  fun_induction tokensFrom position source generalizing tokens with
  | case1 =>
      cases read
      exact .done
  | case2 position c rest blank ih => exact .blank blank (ih read)
  | case3 position c rest _ numeral after literal ih =>
      cases run : tokensFrom (position + numeral.text.length) after with
      | error fault =>
          rw [run] at read
          contradiction
      | ok others =>
          rw [run] at read
          cases read
          obtain ⟨written, stops⟩ := Numeral.well_formed_of_read literal
          rw [← Numeral.text_append_of_read literal]
          exact .literal written stops (ih run)
  | case4 position c rest _ _ token found ih =>
      cases run : tokensFrom (position + 1) rest with
      | error fault =>
          rw [run] at read
          contradiction
      | ok others =>
          rw [run] at read
          cases read
          exact .symbol found (ih run)
  | case5 => contradiction

theorem tokens_eq_ok_iff {source : Text} {found : List Token} :
    tokens source = .ok found ↔ Lexes source found :=
  ⟨lexes_of_tokens_from, fun lexes => tokens_from_of_lexes lexes 0⟩

theorem Lexes.terminals {source : Text} {tokens : List Token} (lexes : Lexes source tokens) :
    ∃ terminals : List Terminal, tokens = terminals.map Terminal.unmarked := by
  induction lexes with
  | done => exact ⟨[], rfl⟩
  | blank _ _ ih => exact ih
  | @literal numeral _ _ _ _ _ ih =>
      obtain ⟨terminals, same⟩ := ih
      exact ⟨.figure (.ofNumeral numeral) :: terminals, by rw [same]; rfl⟩
  | symbol found _ ih =>
      obtain ⟨terminals, same⟩ := ih
      rcases symbol_cases found with ⟨_, symbol⟩ | ⟨_, symbol⟩ | ⟨operator, _, symbol⟩
      · exact ⟨.opening :: terminals, by rw [same, symbol]; rfl⟩
      · exact ⟨.closing :: terminals, by rw [same, symbol]; rfl⟩
      · exact ⟨.operator operator :: terminals, by rw [same, symbol]; rfl⟩

theorem is_notation_of_is_blank {c : Char} (blank : Text.isBlank c = true) :
    isNotation c = true := by
  simp [isNotation, blank]

theorem is_notation_of_mem_text {numeral : Numeral} (written : numeral.WellFormed) {c : Char}
    (member : c ∈ numeral.text) : isNotation c = true := by
  rcases mem_text_cases written member with digit | rfl | rfl
  · simp [isNotation, digit]
  · rfl
  · rfl

theorem is_notation_of_symbol {c : Char} {token : Token} (found : Token.ofSymbol? c = some token) :
    isNotation c = true := by
  rcases symbol_cases found with ⟨rfl, _⟩ | ⟨rfl, _⟩ | ⟨operator, rfl, _⟩
  · rfl
  · rfl
  · cases operator <;> rfl

theorem Lexes.characters {source : Text} {tokens : List Token} (lexes : Lexes source tokens) :
    ∀ c ∈ source, isNotation c = true := by
  induction lexes with
  | done => simp
  | blank blank _ ih =>
      intro c member
      rcases List.mem_cons.1 member with rfl | member
      · exact is_notation_of_is_blank blank
      · exact ih c member
  | literal written _ _ ih =>
      intro c member
      rcases List.mem_append.1 member with member | member
      · exact is_notation_of_mem_text written member
      · exact ih c member
  | symbol found _ ih =>
      intro c member
      rcases List.mem_cons.1 member with rfl | member
      · exact is_notation_of_symbol found
      · exact ih c member

end Reckoner.Expression
