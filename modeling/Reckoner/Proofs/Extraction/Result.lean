import Reckoner.Decimal.Fixed
import Reckoner.Proofs.Expression.Evaluation
import Reckoner.Proofs.Extraction.Boundary

/-!
# The pieces of a result

A result is a literal, perhaps with a minus sign before it and perhaps with a unit behind it. Cut
into pieces again, the sign, the literal and the unit are found in it, so its arithmetic is the
literal under its sign and its unit is the unit.
-/

namespace Reckoner.Extraction

open Expression (Derives Operator Sign Spelling Terminal Tree Writing)

set_option autoImplicit false

def IsUnit (unit : Option Text) : Prop :=
  ∀ word ∈ unit, word ≠ [] ∧ ∀ c ∈ word, Text.isWordCharacter c = true

theorem is_unit_none : IsUnit none := by
  intro word member
  contradiction

theorem kind_of_symbol {c : Char} {token : Token} (found : Token.ofSymbol? c = some token) :
    token.kind ≠ .word := by
  rcases Expression.symbol_cases found with ⟨_, rfl⟩ | ⟨_, rfl⟩ | ⟨operator, _, rfl⟩
  · decide
  · decide
  · cases operator <;> decide

theorem Found.is_unit {token : Token} (found : Found token) (kind : token.kind = .word) :
    IsUnit (some token.text) := by
  intro word member
  cases Option.some.inj member
  cases found with
  | @literal numeral _ =>
      unfold Token.ofNumeral at kind
      cases share : numeral.isPercent <;> rw [share] at kind <;> contradiction
  | symbol found => exact absurd kind (kind_of_symbol found)
  | timesSign => contradiction
  | word inWord => exact ⟨List.cons_ne_nil _ _, inWord⟩
  | blank => contradiction

theorem is_unit_leading_word {tokens : List Token} (found : ∀ token ∈ tokens, Found token) :
    IsUnit (leadingWord? tokens) := by
  induction tokens with
  | nil => exact is_unit_none
  | cons token rest ih =>
      have others := ih fun other member => found other (List.mem_cons_of_mem _ member)
      unfold leadingWord?
      split
      · exact others
      · rename_i kind
        exact (found token List.mem_cons_self).is_unit kind
      · exact is_unit_none

theorem is_unit_find_unit (raw : Text) : IsUnit (findUnit (tokensOf raw)) := by
  apply is_unit_leading_word
  intro token member
  have inside := (List.dropWhile_suffix _).subset (List.mem_of_mem_drop member)
  exact found_of_mem_tokens_of inside

def unitTail : Option Text → Text
  | none => []
  | some word => ' ' :: word

def unitTokens : Option Text → List Token
  | none => []
  | some word => [.bare .blank [' '], .bare .word word]

def signedText (minus : Bool) (numeral : Numeral) : Text :=
  (if minus then ['-'] else []) ++ numeral.text

def signedArithmetic (minus : Bool) (numeral : Numeral) : Text :=
  (if minus then ['-', ' '] else []) ++ numeral.text

def signTokens (minus : Bool) : List Token :=
  if minus then [Operator.minus.token] else []

theorem with_unit_eq {unit : Option Text} (word : IsUnit unit) (text : Text) :
    Decimal.withUnit text unit = text ++ unitTail unit := by
  match unit with
  | none => exact (List.append_nil text).symm
  | some [] => exact absurd rfl (word [] rfl).1
  | some (_ :: _) => rfl

theorem tokens_of_unit_tail {unit : Option Text} (word : IsUnit unit) :
    tokensOf (unitTail unit) = unitTokens unit := by
  match unit with
  | none =>
      rw [tokensOf, unitTail, pieces]
      rfl
  | some [] => exact absurd rfl (word [] rfl).1
  | some (c :: rest) =>
      obtain ⟨_, inWord⟩ := word (c :: rest) rfl
      have cut := @pieces_word c rest [] inWord (by simp)
      have noMore : pieces [] = [] := by rw [pieces]
      rw [List.append_nil, noMore] at cut
      rw [tokensOf, unitTail, pieces_space, cut]
      · rfl
      · intro next member
        cases Option.some.inj member
        exact not_blank_of_is_word_character (inWord c List.mem_cons_self)

theorem stops_before_unit_tail (numeral : Numeral) (unit : Option Text) :
    numeral.StopsBefore (unitTail unit) := by
  cases unit with
  | none => exact Numeral.stops_before_of_head (by simp [unitTail])
  | some word => exact Expression.stops_before_blank rfl

theorem is_operand_of_numeral (numeral : Numeral) : (Token.ofNumeral numeral).isOperand = true := by
  unfold Token.isOperand Token.ofNumeral
  cases numeral.isPercent <;> rfl

theorem is_arithmetic_of_numeral (numeral : Numeral) :
    isArithmetic (.ofNumeral numeral) = true := by
  unfold isArithmetic Token.ofNumeral
  cases numeral.isPercent <;> rfl

section Result

variable {numeral : Numeral} {unit : Option Text}

theorem tokens_of_result (written : numeral.WellFormed) (word : IsUnit unit) (minus : Bool) :
    tokensOf (Decimal.withUnit (signedText minus numeral) unit) =
      signTokens minus ++ (.ofNumeral numeral :: unitTokens unit) := by
  have behind : tokensOf (numeral.text ++ unitTail unit) =
      .ofNumeral numeral :: unitTokens unit := by
    rw [← tokens_of_unit_tail word, tokensOf, tokensOf,
      pieces_literal written (stops_before_unit_tail numeral unit)]
    rfl
  rw [with_unit_eq word, signedText, List.append_assoc]
  cases minus with
  | false => exact behind
  | true =>
      have sign : Token.ofSymbol? '-' = some Operator.minus.token := rfl
      rw [tokensOf] at behind
      simp only [if_true, List.cons_append, List.nil_append, tokensOf, pieces_symbol sign]
      rw [List.filterMap_cons, behind]
      rfl

theorem find_unit_result (numeral : Numeral) (unit : Option Text) (minus : Bool) :
    findUnit (signTokens minus ++ (.ofNumeral numeral :: unitTokens unit)) = unit := by
  have operand : (Token.ofNumeral numeral).isOperand = true := is_operand_of_numeral numeral
  have sign : Operator.minus.token.isOperand = false := rfl
  have rest : (signTokens minus ++ (.ofNumeral numeral :: unitTokens unit)).dropWhile
      (!·.isOperand) = .ofNumeral numeral :: unitTokens unit := by
    cases minus <;> simp [signTokens, operand, sign]
  rw [findUnit, rest, List.drop_one, List.tail_cons]
  cases unit with
  | none => rfl
  | some word => rfl

theorem arithmetic_result (written : numeral.WellFormed) (unit : Option Text) (minus : Bool) :
    arithmetic (signTokens minus ++ (.ofNumeral numeral :: unitTokens unit)) =
      signedArithmetic minus numeral := by
  have figured : (signTokens minus ++ (.ofNumeral numeral :: unitTokens unit)).any
      Token.isOperand = true := by
    simp [is_operand_of_numeral]
  have literal : notated (.ofNumeral numeral) = numeral.text := by
    have other : (Token.ofNumeral numeral).text ≠ [Text.timesSign] := text_ne_times_sign written
    rw [notated, if_neg other]
    rfl
  have unitless : (unitTokens unit).filter isArithmetic = [] := by
    cases unit <;> rfl
  rw [arithmetic, if_pos figured, List.filter_append, List.filter_cons_of_pos
    (is_arithmetic_of_numeral numeral), unitless, List.map_append, List.map_cons, literal]
  cases minus with
  | false => exact List.append_nil _
  | true =>
      change '-' :: ' ' :: (numeral.text ++ []) = '-' :: ' ' :: numeral.text
      rw [List.append_nil]

def signedLeaf (minus : Bool) (numeral : Numeral) : Tree :=
  if minus then .signed .minus (.leaf (.ofNumeral numeral)) else .leaf (.ofNumeral numeral)

theorem evaluate_result (written : numeral.WellFormed) (minus : Bool) :
    Expression.evaluate (signedArithmetic minus numeral) =
      .ok (signedLeaf minus numeral).value := by
  have figure := Derives.figure (.ofNumeral numeral)
  have ending : Writing [] [] := .done (by simp)
  cases minus with
  | false =>
      have spelled : Writing _ (numeral.text ++ []) := .directly (.literal written) ending
      rw [List.append_nil] at spelled
      exact Expression.evaluate_of_writing (.single (.single figure)) spelled
  | true =>
      have spelled : Writing _ (['-'] ++ (' ' :: (numeral.text ++ []))) :=
        .directly (.sign .minus) (.spaced (.literal written) ending)
      rw [List.append_nil] at spelled
      exact Expression.evaluate_of_writing (.single (.single (.signed .minus figure))) spelled

end Result

end Reckoner.Extraction
