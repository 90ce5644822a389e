import Reckoner.Proofs.Expression.Grammar

/-!
# Marking the signs of a writing

Marking decides each sign from the token before it. On a writing of an expression this gives back
the terminals that it was made of, and any list of terminals as they are read becomes one of marked
terminals.
-/

namespace Reckoner.Expression

set_option autoImplicit false

@[simp] theorem expects_operand_figure (figure : Figure) :
    expectsOperand (some figure.token) = false := by
  unfold expectsOperand Figure.token Token.isBinaryOperator Token.isUnaryOperator
  cases figure.isShare <;> rfl

@[simp] theorem expects_operand_sign (sign : Sign) : expectsOperand (some sign.token) = true := by
  cases sign <;> rfl

@[simp] theorem expects_operand_operator (operator : Operator) :
    expectsOperand (some operator.token) = true := by
  cases operator <;> rfl

@[simp] theorem expects_operand_opening : expectsOperand (some Terminal.opening.token) = true := rfl

@[simp] theorem expects_operand_closing :
    expectsOperand (some Terminal.closing.token) = false := rfl

@[simp] theorem marked_figure (previous : Option Token) (figure : Figure) :
    marked previous figure.token = figure.token := by
  unfold marked Figure.token
  cases figure.isShare <;> simp

@[simp] theorem marked_opening (previous : Option Token) :
    marked previous Terminal.opening.token = Terminal.opening.token := by
  simp [marked, Terminal.token, Token.bare]

@[simp] theorem marked_closing (previous : Option Token) :
    marked previous Terminal.closing.token = Terminal.closing.token := by
  simp [marked, Terminal.token, Token.bare]

theorem marked_sign {previous : Option Token} (expected : expectsOperand previous = true)
    (sign : Sign) : marked previous (Terminal.sign sign).unmarked = sign.token := by
  cases sign <;> simp [marked, Terminal.unmarked, Sign.char, Sign.token, Token.bare, expected]

theorem marked_operator {previous : Option Token} (complete : expectsOperand previous = false)
    (operator : Operator) : marked previous operator.token = operator.token := by
  simp [marked, complete]

/-- The invariant of marking along a derivation: where an operand is expected, a writing is marked
as its own terminals, and behind it no operand is expected any more. -/
theorem mark_signs_after_of_derives {level : Level} {tree : Tree} {terminals : List Terminal}
    (derived : Derives level tree terminals) (previous : Option Token)
    (expected : expectsOperand previous = true) (rest : List Token) :
    ∃ last, expectsOperand (some last) = false ∧
      markSignsAfter previous (terminals.map Terminal.unmarked ++ rest) =
        terminals.map Terminal.token ++ markSignsAfter (some last) rest := by
  induction derived generalizing previous rest with
  | figure figure =>
      refine ⟨figure.token, expects_operand_figure figure, ?_⟩
      simp [markSignsAfter, Terminal.unmarked, Terminal.token]
  | signed sign _ ih =>
      obtain ⟨last, complete, run⟩ := ih (some sign.token) (expects_operand_sign sign) rest
      refine ⟨last, complete, ?_⟩
      simp only [List.map_cons, List.cons_append, markSignsAfter, marked_sign expected, run]
      rfl
  | @group tree terminals _ ih =>
      obtain ⟨last, complete, run⟩ := ih (some Terminal.opening.token) expects_operand_opening
        (Terminal.closing.token :: rest)
      refine ⟨Terminal.closing.token, expects_operand_closing, ?_⟩
      have opened : Terminal.opening.unmarked = Terminal.opening.token := rfl
      have closed : Terminal.closing.unmarked = Terminal.closing.token := rfl
      simp only [List.map_cons, List.map_append, List.map_nil, List.cons_append, List.append_assoc,
        List.nil_append, markSignsAfter, opened, closed, marked_opening, run, marked_closing]
  | single _ ih => exact ih previous expected rest
  | @combined left right before behind operator _ _ ihLeft ihRight =>
      obtain ⟨last, complete, run⟩ := ihRight (some operator.token)
        (expects_operand_operator operator) rest
      obtain ⟨middle, middleComplete, leftRun⟩ := ihLeft previous expected
        (operator.token :: (behind.map Terminal.unmarked ++ rest))
      refine ⟨last, complete, ?_⟩
      have same : (Terminal.operator operator).unmarked = operator.token := rfl
      simp only [List.map_cons, List.map_append, List.append_assoc, List.cons_append, same]
      rw [leftRun, markSignsAfter, marked_operator middleComplete, run]
      rfl

/-- Marking a writing of an expression gives back the terminals that it is made of. -/
theorem mark_signs_of_derives {level : Level} {tree : Tree} {terminals : List Terminal}
    (derived : Derives level tree terminals) :
    markSigns (terminals.map Terminal.unmarked) = terminals.map Terminal.token := by
  obtain ⟨last, _, run⟩ := mark_signs_after_of_derives derived none rfl []
  simpa [markSigns, markSignsAfter] using run

theorem marked_unmarked (previous : Option Token) (terminal : Terminal) :
    ∃ other : Terminal, marked previous terminal.unmarked = other.token := by
  cases terminal with
  | figure figure => exact ⟨.figure figure, marked_figure previous figure⟩
  | opening => exact ⟨.opening, marked_opening previous⟩
  | closing => exact ⟨.closing, marked_closing previous⟩
  | sign sign =>
      by_cases expected : expectsOperand previous = true
      · exact ⟨.sign sign, marked_sign expected sign⟩
      · cases sign with
        | plus => exact ⟨.operator .plus, marked_operator (by simpa using expected) .plus⟩
        | minus => exact ⟨.operator .minus, marked_operator (by simpa using expected) .minus⟩
  | operator operator =>
      by_cases expected : expectsOperand previous = true
      · cases operator with
        | plus => exact ⟨.sign .plus, marked_sign expected .plus⟩
        | minus => exact ⟨.sign .minus, marked_sign expected .minus⟩
        | times => exact ⟨.operator .times, by simp [marked, Terminal.unmarked, Terminal.token,
            Operator.token, Operator.char, Token.bare]⟩
        | divide => exact ⟨.operator .divide, by simp [marked, Terminal.unmarked, Terminal.token,
            Operator.token, Operator.char, Token.bare]⟩
      · exact ⟨.operator operator, marked_operator (by simpa using expected) operator⟩

theorem mark_signs_after_unmarked (previous : Option Token) (terminals : List Terminal) :
    ∃ others : List Terminal,
      markSignsAfter previous (terminals.map Terminal.unmarked) = others.map Terminal.token := by
  induction terminals generalizing previous with
  | nil => exact ⟨[], rfl⟩
  | cons terminal rest ih =>
      obtain ⟨other, marking⟩ := marked_unmarked previous terminal
      obtain ⟨others, run⟩ := ih (some other.token)
      refine ⟨other :: others, ?_⟩
      simp only [List.map_cons, markSignsAfter, marking, run]

end Reckoner.Expression
