import Reckoner.Proofs.Expression.Marking
import Reckoner.Proofs.Expression.Reordering

/-!
# Tokens in their places

A list of tokens is a writing of an expression exactly when every token stands in its place next to
the one before it and the parentheses match: operands, opening parentheses and signs where an
operand is expected, operators and closing parentheses where one has just ended.
-/

namespace Reckoner.Expression

set_option autoImplicit false

def beginsOperand (token : Token) : Bool :=
  token.isOperand || token.kind = .openParen || token.isUnaryOperator

/-- Each token stands where its neighbour before it lets it stand, and at the end an operand is
complete. -/
def inPlaceAfter (previous : Option Token) : List Token → Bool
  | [] => !expectsOperand previous
  | token :: rest =>
      beginsOperand token == expectsOperand previous && inPlaceAfter (some token) rest

/-- The parentheses match, with so many of them open before. -/
def parenthesesMatch : Nat → List Token → Bool
  | depth, [] => depth == 0
  | depth, token :: rest =>
      match token.kind, depth with
      | .openParen, _ => parenthesesMatch (depth + 1) rest
      | .closeParen, 0 => false
      | .closeParen, below + 1 => parenthesesMatch below rest
      | _, _ => parenthesesMatch depth rest

def IsExpression (tokens : List Token) : Prop :=
  ∃ tree terminals, Derives .sum tree terminals ∧ tokens = terminals.map Terminal.token

@[simp] theorem begins_operand_figure (figure : Figure) : beginsOperand figure.token = true := by
  unfold beginsOperand Figure.token Token.isOperand
  cases figure.isShare <;> rfl

@[simp] theorem begins_operand_sign (sign : Sign) : beginsOperand sign.token = true := by
  cases sign <;> rfl

@[simp] theorem begins_operand_operator (operator : Operator) :
    beginsOperand operator.token = false := by
  cases operator <;> rfl

@[simp] theorem begins_operand_opening : beginsOperand Terminal.opening.token = true := rfl

@[simp] theorem begins_operand_closing : beginsOperand Terminal.closing.token = false := rfl

@[simp] theorem parentheses_match_figure (depth : Nat) (figure : Figure) (rest : List Token) :
    parenthesesMatch depth (figure.token :: rest) = parenthesesMatch depth rest := by
  cases share : figure.isShare <;> simp [parenthesesMatch, Figure.token, share]

@[simp] theorem parentheses_match_sign (depth : Nat) (sign : Sign) (rest : List Token) :
    parenthesesMatch depth (sign.token :: rest) = parenthesesMatch depth rest := by
  cases sign <;> rfl

@[simp] theorem parentheses_match_operator (depth : Nat) (operator : Operator) (rest : List Token) :
    parenthesesMatch depth (operator.token :: rest) = parenthesesMatch depth rest := by
  cases operator <;> rfl

@[simp] theorem parentheses_match_opening (depth : Nat) (rest : List Token) :
    parenthesesMatch depth (Terminal.opening.token :: rest) =
      parenthesesMatch (depth + 1) rest := rfl

@[simp] theorem parentheses_match_closing (depth : Nat) (rest : List Token) :
    parenthesesMatch (depth + 1) (Terminal.closing.token :: rest) =
      parenthesesMatch depth rest := rfl

theorem parentheses_match_skip {token : Token} (opening : token.kind ≠ .openParen)
    (closing : token.kind ≠ .closeParen) (depth : Nat) (rest : List Token) :
    parenthesesMatch depth (token :: rest) = parenthesesMatch depth rest := by
  rw [parenthesesMatch.eq_def depth (token :: rest)]
  dsimp only
  split
  · contradiction
  · contradiction
  · contradiction
  · rfl

theorem parentheses_match_of_opening {token : Token} (opening : token.kind = .openParen)
    (depth : Nat) (rest : List Token) :
    parenthesesMatch depth (token :: rest) = parenthesesMatch (depth + 1) rest := by
  rw [parenthesesMatch.eq_def depth (token :: rest)]
  simp only [opening]

theorem parentheses_match_of_closing {token : Token} (closing : token.kind = .closeParen)
    {depth : Nat} {rest : List Token} (matched : parenthesesMatch depth (token :: rest) = true) :
    ∃ below, depth = below + 1 ∧ parenthesesMatch below rest = true := by
  cases depth with
  | zero => simp [parenthesesMatch, closing] at matched
  | succ below =>
      refine ⟨below, rfl, ?_⟩
      rw [parenthesesMatch.eq_def] at matched
      simpa only [closing] using matched

theorem in_place_after_of_derives {level : Level} {tree : Tree} {terminals : List Terminal}
    (derived : Derives level tree terminals) (previous : Option Token)
    (expected : expectsOperand previous = true) (rest : List Token) :
    ∃ last, expectsOperand (some last) = false ∧
      inPlaceAfter previous (terminals.map Terminal.token ++ rest) =
        inPlaceAfter (some last) rest := by
  induction derived generalizing previous rest with
  | figure figure =>
      refine ⟨figure.token, expects_operand_figure figure, ?_⟩
      simp [inPlaceAfter, Terminal.token, expected]
  | signed sign _ ih =>
      obtain ⟨last, complete, placed⟩ := ih (some sign.token) (expects_operand_sign sign) rest
      refine ⟨last, complete, ?_⟩
      rw [← placed]
      simp [inPlaceAfter, Terminal.token, expected]
  | group _ ih =>
      obtain ⟨last, complete, placed⟩ := ih (some Terminal.opening.token) expects_operand_opening
        (Terminal.closing.token :: rest)
      refine ⟨Terminal.closing.token, expects_operand_closing, ?_⟩
      simp only [inPlaceAfter, begins_operand_closing, complete, beq_self_eq_true,
        Bool.true_and] at placed
      rw [← placed]
      simp [inPlaceAfter, expected]
  | single _ ih => exact ih previous expected rest
  | @combined left right before behind operator _ _ ihLeft ihRight =>
      obtain ⟨last, complete, placed⟩ := ihRight (some operator.token)
        (expects_operand_operator operator) rest
      obtain ⟨middle, middleComplete, leftPlaced⟩ := ihLeft previous expected
        (operator.token :: (behind.map Terminal.token ++ rest))
      refine ⟨last, complete, ?_⟩
      simp only [inPlaceAfter, begins_operand_operator, middleComplete, beq_self_eq_true,
        Bool.true_and] at leftPlaced
      rw [← placed, ← leftPlaced]
      simp [Terminal.token]

/-- Part of an expression that lacks an operand of the level at its end. -/
inductive Lacks : Level → List Terminal → Prop
  | start : Lacks .sum []
  | single {level : Level} {terminals : List Terminal} :
      Lacks level terminals → Lacks level.next terminals
  | sign {terminals : List Terminal} (sign : Sign) :
      Lacks .factor terminals → Lacks .factor (terminals ++ [.sign sign])
  | operator {left : Tree} {terminals before : List Terminal} (operator : Operator) :
      Lacks operator.level terminals → Derives operator.level left before →
      Lacks operator.level.next (terminals ++ (before ++ [.operator operator]))

theorem Lacks.factor {level : Level} {terminals : List Terminal} (lacking : Lacks level terminals) :
    Lacks .factor terminals := by
  cases level with
  | sum => exact lacking.single.single
  | product => exact lacking.single
  | factor => exact lacking

theorem eq_nil_of_lacks_sum {terminals : List Terminal} (lacking : Lacks .sum terminals) :
    terminals = [] := by
  generalize same : Level.sum = level at lacking
  induction lacking with
  | start => rfl
  | @single level _ _ _ => cases level <;> contradiction
  | sign => contradiction
  | operator operator => cases operator <;> contradiction

theorem Level.rank_le_of_ne_next {target level : Level} (bound : target.rank ≤ level.next.rank)
    (other : target ≠ level.next) : target.rank ≤ level.rank := by
  revert bound other
  cases target <;> cases level <;> decide

/-- The operand that a part lacks, once it is there, can be taken into a larger operand that another
part lacks, of any looser level. -/
theorem Lacks.reduce {level : Level} {terminals : List Terminal} (lacking : Lacks level terminals)
    (target : Level) (bound : target.rank ≤ level.rank) {tree : Tree} {operand : List Terminal}
    (derived : Derives level tree operand) :
    ∃ (larger : Tree) (before behind : List Terminal), terminals ++ operand = before ++ behind ∧
      Lacks target before ∧ Derives target larger behind := by
  -- Each constructor but the first takes the operand into a larger one, until the level fits.
  induction lacking generalizing tree operand with
  | start =>
      have same : target = .sum := by
        cases target with
        | sum => rfl
        | product => contradiction
        | factor => contradiction
      subst same
      exact ⟨tree, [], operand, rfl, .start, derived⟩
  | @single level terminals lacking ih =>
      by_cases same : target = level.next
      · subst same
        exact ⟨tree, terminals, operand, rfl, .single lacking, derived⟩
      · exact ih (Level.rank_le_of_ne_next bound same) (.single derived)
  | @sign terminals sign lacking ih =>
      by_cases same : target = .factor
      · subst same
        exact ⟨tree, terminals ++ [.sign sign], operand, rfl, .sign sign lacking, derived⟩
      · obtain ⟨larger, before, behind, split, rest⟩ := ih bound (.signed sign derived)
        exact ⟨larger, before, behind, by rw [← split, List.append_assoc]; rfl, rest⟩
  | @operator left terminals before operator lacking leftDerived ih =>
      by_cases same : target = operator.level.next
      · subst same
        exact ⟨tree, terminals ++ (before ++ [.operator operator]), operand, rfl,
          .operator operator lacking leftDerived, derived⟩
      · obtain ⟨larger, front, behind, split, rest⟩ :=
          ih (Level.rank_le_of_ne_next bound same) (.combined operator leftDerived derived)
        refine ⟨larger, front, behind, ?_, rest⟩
        rw [← split]
        simp only [List.append_assoc, List.cons_append, List.nil_append]

/-- Terminals up to the last of so many parentheses that are still open, each of which stands where
an operand is lacking. -/
inductive Opens : Nat → List Terminal → Prop
  | outside : Opens 0 []
  | group {depth : Nat} {outer terminals : List Terminal} :
      Opens depth outer → Lacks .factor terminals →
      Opens (depth + 1) (outer ++ (terminals ++ [.opening]))

/-- What is known of the terminals that were read, each in its place, up to a token and with so many
parentheses open: they lack an operand, or they end with one. -/
inductive Reading : Option Token → Nat → List Terminal → Prop
  | lacking {previous : Option Token} {depth : Nat} {outer terminals : List Terminal} :
      expectsOperand previous = true → Opens depth outer → Lacks .factor terminals →
      Reading previous depth (outer ++ terminals)
  | complete {previous : Option Token} {depth : Nat} {tree : Tree}
      {outer terminals operand : List Terminal} :
      expectsOperand previous = false → Opens depth outer → Lacks .factor terminals →
      Derives .factor tree operand → Reading previous depth (outer ++ (terminals ++ operand))

theorem in_place_after_cons {previous : Option Token} {token : Token} {rest : List Token}
    (placed : inPlaceAfter previous (token :: rest) = true) :
    beginsOperand token = expectsOperand previous ∧ inPlaceAfter (some token) rest = true := by
  rw [inPlaceAfter, Bool.and_eq_true, beq_iff_eq] at placed
  exact placed

theorem reading_of_lacks {depth : Nat} {outer terminals : List Terminal}
    (opens : Opens depth outer) (lacking : Lacks .factor terminals) (terminal : Terminal)
    (begins : beginsOperand terminal.token = true) (rest : List Token)
    (closed : parenthesesMatch depth (terminal.token :: rest) = true) :
    ∃ deeper, Reading (some terminal.token) deeper (outer ++ terminals ++ [terminal]) ∧
      parenthesesMatch deeper rest = true := by
  rw [List.append_assoc]
  cases terminal with
  | figure figure =>
      rw [Terminal.token, parentheses_match_figure] at closed
      have whole := Reading.complete (expects_operand_figure figure) opens lacking (.figure figure)
      exact ⟨depth, whole, closed⟩
  | sign sign =>
      rw [Terminal.token, parentheses_match_sign] at closed
      exact ⟨depth, .lacking (expects_operand_sign sign) opens (.sign sign lacking), closed⟩
  | opening =>
      rw [parentheses_match_opening] at closed
      have inner :=
        Reading.lacking expects_operand_opening (.group opens lacking) Lacks.start.factor
      rw [List.append_nil] at inner
      exact ⟨depth + 1, inner, closed⟩
  | operator operator =>
      rw [Terminal.token, begins_operand_operator] at begins
      contradiction
  | closing => contradiction

theorem reading_of_derives {depth : Nat} {tree : Tree} {outer terminals operand : List Terminal}
    (opens : Opens depth outer) (lacking : Lacks .factor terminals)
    (derived : Derives .factor tree operand) (terminal : Terminal)
    (ends : beginsOperand terminal.token = false) (rest : List Token)
    (closed : parenthesesMatch depth (terminal.token :: rest) = true) :
    ∃ deeper, Reading (some terminal.token) deeper (outer ++ (terminals ++ operand) ++ [terminal]) ∧
      parenthesesMatch deeper rest = true := by
  cases terminal with
  | figure figure =>
      rw [Terminal.token, begins_operand_figure] at ends
      contradiction
  | sign sign =>
      rw [Terminal.token, begins_operand_sign] at ends
      contradiction
  | opening => contradiction
  | operator operator =>
      rw [Terminal.token, parentheses_match_operator] at closed
      -- The operand is taken into the largest one that the operator can have on its left.
      obtain ⟨left, before, behind, split, rests, leftDerived⟩ :=
        lacking.reduce operator.level (by cases operator <;> decide) derived
      have taken := Reading.lacking (expects_operand_operator operator) opens
        (Lacks.operator operator rests leftDerived).factor
      refine ⟨depth, ?_, closed⟩
      rw [split, List.append_assoc, List.append_assoc]
      exact taken
  | closing =>
      -- All that stands behind the open parenthesis is one sum, as nothing looser can be lacking.
      obtain ⟨inside, before, behind, split, rests, insideDerived⟩ :=
        lacking.reduce .sum (by decide) derived
      rw [eq_nil_of_lacks_sum rests, List.nil_append] at split
      cases opens with
      | outside => contradiction
      | @group below outer others opens lacking =>
          rw [parentheses_match_closing] at closed
          have group :=
            Reading.complete expects_operand_closing opens lacking (.group insideDerived)
          refine ⟨below, ?_, closed⟩
          rw [split]
          simpa only [List.append_assoc, List.cons_append, List.nil_append] using group

/-- The invariant of reading: a terminal in its place keeps what is known. -/
theorem Reading.step {previous : Option Token} {depth : Nat} {read : List Terminal}
    (reading : Reading previous depth read) (terminal : Terminal) (rest : List Token)
    (begins : beginsOperand terminal.token = expectsOperand previous)
    (closed : parenthesesMatch depth (terminal.token :: rest) = true) :
    ∃ deeper, Reading (some terminal.token) deeper (read ++ [terminal]) ∧
      parenthesesMatch deeper rest = true := by
  cases reading with
  | lacking expected opens lacking =>
      rw [expected] at begins
      exact reading_of_lacks opens lacking terminal begins rest closed
  | complete complete opens lacking derived =>
      rw [complete] at begins
      exact reading_of_derives opens lacking derived terminal begins rest closed

theorem Reading.finish {previous : Option Token} {depth : Nat} {read : List Terminal}
    (reading : Reading previous depth read) (placed : inPlaceAfter previous [] = true)
    (closed : parenthesesMatch depth [] = true) : ∃ tree, Derives .sum tree read := by
  cases reading with
  | lacking expected _ _ =>
      rw [inPlaceAfter, expected] at placed
      contradiction
  | complete _ opens lacking derived =>
      cases opens with
      | group _ _ => contradiction
      | outside =>
          obtain ⟨tree, before, behind, split, rests, derived⟩ :=
            lacking.reduce .sum (by decide) derived
          rw [eq_nil_of_lacks_sum rests, List.nil_append] at split
          rw [List.nil_append, split]
          exact ⟨tree, derived⟩

theorem Reading.derives {previous : Option Token} {depth : Nat} {read : List Terminal}
    (reading : Reading previous depth read) (rest : List Terminal)
    (placed : inPlaceAfter previous (rest.map Terminal.token) = true)
    (closed : parenthesesMatch depth (rest.map Terminal.token) = true) :
    ∃ tree, Derives .sum tree (read ++ rest) := by
  induction rest generalizing previous depth read with
  | nil =>
      rw [List.append_nil]
      exact reading.finish placed closed
  | cons terminal rest ih =>
      obtain ⟨begins, placed⟩ := in_place_after_cons placed
      obtain ⟨deeper, further, closed⟩ := reading.step terminal _ begins closed
      have run := ih further placed closed
      rw [List.append_assoc] at run
      exact run

theorem parentheses_match_of_derives {level : Level} {tree : Tree} {terminals : List Terminal}
    (derived : Derives level tree terminals) (depth : Nat) (rest : List Token) :
    parenthesesMatch depth (terminals.map Terminal.token ++ rest) =
      parenthesesMatch depth rest := by
  induction derived generalizing depth rest with
  | figure figure => exact parentheses_match_figure depth figure rest
  | signed sign _ ih =>
      rw [List.map_cons, List.cons_append, Terminal.token, parentheses_match_sign, ih]
  | group _ ih =>
      rw [List.map_cons, List.map_append, List.cons_append, List.append_assoc,
        parentheses_match_opening, ih]
      rfl
  | single _ ih => exact ih depth rest
  | combined operator _ _ ihLeft ihRight =>
      rw [List.map_append, List.append_assoc, ihLeft, List.map_cons, List.cons_append,
        Terminal.token, parentheses_match_operator, ihRight]

/-- Terminals are a writing of an expression exactly when each is in its place and the parentheses
match. -/
theorem is_expression_iff (terminals : List Terminal) :
    IsExpression (terminals.map Terminal.token) ↔
      inPlaceAfter none (terminals.map Terminal.token) = true ∧
        parenthesesMatch 0 (terminals.map Terminal.token) = true := by
  constructor
  · rintro ⟨tree, others, derived, same⟩
    obtain ⟨last, complete, placed⟩ := in_place_after_of_derives derived none rfl []
    have closed := parentheses_match_of_derives derived 0 []
    rw [List.append_nil] at placed closed
    rw [same, placed, closed]
    simp [inPlaceAfter, complete, parenthesesMatch]
  · rintro ⟨placed, closed⟩
    have start : Reading none 0 [] := .lacking rfl .outside Lacks.start.factor
    obtain ⟨tree, derived⟩ := start.derives terminals placed closed
    exact ⟨tree, terminals, derived, rfl⟩

end Reckoner.Expression
