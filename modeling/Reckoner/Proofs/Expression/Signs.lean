import Reckoner.Expression.Sign

/-!
# Signs and their neighbours

Marking runs from left to right and looks back at tokens that it has marked already. A plus or minus
calls for an operand behind it whether it is marked or not, so in fact each one is decided by the
token before it as that was given. This holds of all lists of tokens, those that no text is cut into
included. So the marks can be taken off again, and marking once more changes nothing.
-/

namespace Reckoner.Expression

set_option autoImplicit false

def isPlusOrMinus (token : Token) : Bool :=
  token.kind = .operator && (token.text = ['+'] || token.text = ['-'])

/-- What a plus or minus stands behind if it is a sign: nothing, an opening parenthesis, or one of
the operators and signs of the notation. -/
inductive AwaitsOperand : Option Token → Prop
  | start : AwaitsOperand none
  | opening {token : Token} : token.kind = .openParen → AwaitsOperand (some token)
  | operator {token : Token} : token.kind = .operator →
      token.text ∈ ["+".toList, "-".toList, "*".toList, "/".toList, "u+".toList, "u-".toList] →
      AwaitsOperand (some token)

def signOf (token : Token) : Token :=
  .bare .operator ('u' :: token.text)

def spelling (token : Token) : Kind × Text :=
  (token.kind, token.text)

def unmarkedSpelling (token : Token) : Kind × Text :=
  (token.kind, if token.isUnaryOperator then token.text.drop 1 else token.text)

section Token

variable {token : Token} {previous other : Option Token}

theorem expects_operand_iff : expectsOperand previous = true ↔ AwaitsOperand previous := by
  constructor
  · intro expected
    cases previous with
    | none => exact .start
    | some token =>
        simp only [expectsOperand, Token.isBinaryOperator, Token.isUnaryOperator,
          Bool.or_eq_true, Bool.and_eq_true, decide_eq_true_eq, List.contains_iff_mem] at expected
        rcases expected with (opening | ⟨operator, symbol⟩) | ⟨operator, symbol⟩
        · exact .opening opening
        · exact .operator operator (List.mem_append_left _ symbol)
        · exact .operator operator (List.mem_append_right Token.binarySymbols symbol)
  · intro awaits
    cases awaits with
    | start => rfl
    | opening opening => simp [expectsOperand, opening]
    | operator operator symbol =>
        rcases List.mem_append.1 (show _ ∈ Token.binarySymbols ++ Token.unarySymbols from symbol)
          with binary | unary
        · simp [expectsOperand, Token.isBinaryOperator, operator, binary]
        · simp [expectsOperand, Token.isUnaryOperator, operator, unary]

theorem marked_eq (previous : Option Token) (token : Token) :
    marked previous token =
      if isPlusOrMinus token && expectsOperand previous then signOf token else token := by
  unfold marked isPlusOrMinus
  by_cases operator : token.kind = .operator
  · cases expectsOperand previous with
    | false => simp
    | true =>
        by_cases plus : token.text = ['+']
        · simp [operator, plus, signOf, Token.unaryPlus]
        · by_cases minus : token.text = ['-']
          · simp [operator, minus, signOf, Token.unaryMinus]
          · simp [operator, plus, minus]
  · simp [operator]

theorem is_plus_or_minus_iff : isPlusOrMinus token = true ↔
    token.kind = .operator ∧ (token.text = ['+'] ∨ token.text = ['-']) := by
  simp [isPlusOrMinus]

theorem is_unary_operator_of_is_plus_or_minus (ambiguous : isPlusOrMinus token = true) :
    token.isUnaryOperator = false ∧ (signOf token).isUnaryOperator = true := by
  obtain ⟨operator, plus | minus⟩ := is_plus_or_minus_iff.1 ambiguous
  · rw [Token.isUnaryOperator, Token.isUnaryOperator, signOf, operator, plus]
    decide
  · rw [Token.isUnaryOperator, Token.isUnaryOperator, signOf, operator, minus]
    decide

theorem is_plus_or_minus_sign_of (token : Token) : isPlusOrMinus (signOf token) = false := by
  simp [isPlusOrMinus, signOf, Token.bare]

/-- A plus or minus calls for an operand, as it is and marked as a sign. -/
theorem expects_operand_of_is_plus_or_minus (ambiguous : isPlusOrMinus token = true) :
    expectsOperand (some token) = true ∧ expectsOperand (some (signOf token)) = true := by
  obtain ⟨operator, symbol⟩ := is_plus_or_minus_iff.1 ambiguous
  obtain ⟨_, marked⟩ := is_unary_operator_of_is_plus_or_minus ambiguous
  constructor
  · rw [expects_operand_iff]
    apply AwaitsOperand.operator operator
    rcases symbol with plus | minus
    · simp [plus]
    · simp [minus]
  · simp [expectsOperand, marked]

theorem expects_operand_marked (previous : Option Token) (token : Token) :
    expectsOperand (some (marked previous token)) = expectsOperand (some token) := by
  rw [marked_eq]
  split
  · rename_i sign
    obtain ⟨plain, marked⟩ :=
      expects_operand_of_is_plus_or_minus (Bool.and_eq_true_iff.1 sign).1
    rw [plain, marked]
  · rfl

theorem marked_congr (same : expectsOperand previous = expectsOperand other) (token : Token) :
    marked previous token = marked other token := by
  rw [marked_eq, marked_eq, same]

theorem marked_marked (same : expectsOperand previous = expectsOperand other) (token : Token) :
    marked previous (marked other token) = marked other token := by
  rw [marked_eq other token]
  split
  · rw [marked_eq, is_plus_or_minus_sign_of]
    rfl
  · rename_i plain
    rw [marked_eq, same, if_neg plain]

theorem unmarked_spelling_marked (plain : token.isUnaryOperator = false)
    (previous : Option Token) : unmarkedSpelling (marked previous token) = spelling token := by
  rw [marked_eq]
  split
  · rename_i sign
    have ambiguous := (Bool.and_eq_true_iff.1 sign).1
    rw [unmarkedSpelling, (is_unary_operator_of_is_plus_or_minus ambiguous).2, spelling,
      (is_plus_or_minus_iff.1 ambiguous).1]
    rfl
  · rw [unmarkedSpelling, plain]
    rfl

end Token

section List

variable {previous other : Option Token}

theorem mark_signs_after_congr (same : expectsOperand previous = expectsOperand other)
    (tokens : List Token) : markSignsAfter previous tokens = markSignsAfter other tokens := by
  cases tokens with
  | nil => rfl
  | cons token rest => rw [markSignsAfter, markSignsAfter, marked_congr same]

/-- What is behind some tokens is marked by the last of them as it was given. -/
theorem mark_signs_after_append (previous : Option Token) (front rest : List Token) :
    markSignsAfter previous (front ++ rest) =
      markSignsAfter previous front ++ markSignsAfter (front.getLast?.or previous) rest := by
  induction front generalizing previous with
  | nil => rfl
  | cons token front ih =>
      rw [List.cons_append, markSignsAfter, ih, markSignsAfter, List.cons_append,
        List.getLast?_cons]
      cases front.getLast? with
      | none =>
          have same := mark_signs_after_congr (expects_operand_marked previous token) rest
          exact congrArg _ (congrArg _ same)
      | some last => rfl

theorem length_mark_signs_after (previous : Option Token) (tokens : List Token) :
    (markSignsAfter previous tokens).length = tokens.length := by
  induction tokens generalizing previous with
  | nil => rfl
  | cons token rest ih => rw [markSignsAfter, List.length_cons, ih, List.length_cons]

theorem getElem?_mark_signs (front : List Token) (token : Token) (behind : List Token) :
    (markSigns (front ++ token :: behind))[front.length]? =
      some (marked front.getLast? token) := by
  rw [markSigns, mark_signs_after_append, Option.or_none, ← length_mark_signs_after none front,
    List.getElem?_append_right (Nat.le_refl _), Nat.sub_self]
  rfl

theorem mark_signs_after_mark_signs_after (same : expectsOperand previous = expectsOperand other)
    (tokens : List Token) :
    markSignsAfter previous (markSignsAfter other tokens) = markSignsAfter other tokens := by
  induction tokens generalizing previous other with
  | nil => rfl
  | cons token rest ih =>
      rw [markSignsAfter, markSignsAfter, marked_marked same, ih rfl]

theorem map_unmarked_spelling {tokens : List Token}
    (plain : ∀ token ∈ tokens, token.isUnaryOperator = false) (previous : Option Token) :
    (markSignsAfter previous tokens).map unmarkedSpelling = tokens.map spelling := by
  induction tokens generalizing previous with
  | nil => rfl
  | cons token rest ih =>
      obtain ⟨first, others⟩ := List.forall_mem_cons.1 plain
      rw [markSignsAfter, List.map_cons, List.map_cons, unmarked_spelling_marked first, ih others]

end List

/-- Marking keeps all tokens in their places and changes none but a plus or minus. Each of these is
marked as a sign exactly if the token before it, as it was given, calls for an operand. Where no
sign was marked before, the marks can be taken off again, and marking once more changes nothing. -/
theorem signs_decided_by_neighbour (tokens : List Token) :
    (markSigns tokens).length = tokens.length ∧
    (∀ before token behind, tokens = before ++ token :: behind →
      ∃ found, (markSigns tokens)[before.length]? = some found ∧
        (isPlusOrMinus token = false → found = token) ∧
        (isPlusOrMinus token = true →
          (found = token ∨ found = signOf token) ∧
          (found.isUnaryOperator = true ↔ AwaitsOperand before.getLast?))) ∧
    ((∀ token ∈ tokens, token.isUnaryOperator = false) →
      (markSigns tokens).map unmarkedSpelling = tokens.map spelling) ∧
    markSigns (markSigns tokens) = markSigns tokens := by
  refine ⟨length_mark_signs_after none tokens, ?_, fun plain => map_unmarked_spelling plain none,
    mark_signs_after_mark_signs_after rfl tokens⟩
  rintro before token behind rfl
  refine ⟨_, getElem?_mark_signs before token behind, fun plain => ?_, fun ambiguous => ?_⟩
  · rw [marked_eq, plain]
    rfl
  · obtain ⟨unmarked, sign⟩ := is_unary_operator_of_is_plus_or_minus ambiguous
    rw [← expects_operand_iff, marked_eq, ambiguous]
    cases expectsOperand before.getLast? with
    | true => exact ⟨.inr rfl, iff_of_true sign rfl⟩
    | false => exact ⟨.inl rfl, iff_of_false (by simp [unmarked]) Bool.false_ne_true⟩

/-- Two signs in a row, a minus behind a word, and one behind an operator that the notation does not
have. -/
example : (markSigns [.bare .operator ['-'], .bare .operator ['+'], .bare .word ['m'],
    .bare .operator ['-'], .bare .operator ['^'], .bare .operator ['-']]).map Token.text =
      ["u-".toList, "u+".toList, "m".toList, "-".toList, "^".toList, "-".toList] := by
  decide

end Reckoner.Expression
