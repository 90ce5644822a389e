import Reckoner.Expression.Postfix
import Reckoner.Proofs.Expression.Grammar

/-!
# Reordering a writing

The operators that wait on the stack are the unfinished part of a derivation. Run on a writing of an
expression, the reordering emits the listing of its tree except for the operators that still wait,
and those hold at least as tightly as the part that was read.
-/

namespace Reckoner.Expression

set_option autoImplicit false

/-- The waiting token is carried out before an operator of the level. -/
inductive Yields : Level → Token → Prop
  | sign (sign : Sign) : Yields .factor sign.token
  | operator (operator : Operator) : Yields operator.level operator.token
  | outer {level : Level} {token : Token} : Yields level.next token → Yields level token

/-- The waiting token stays when an operator or sign of the level arrives. -/
inductive Rests : Level → Token → Prop
  | opening : Rests .sum Terminal.opening.token
  | operator (operator : Operator) : Rests operator.level.next operator.token
  | sign (sign : Sign) : Rests .factor sign.token
  | inner {level : Level} {token : Token} : Rests level token → Rests level.next token

/-- The least rank of the tokens that an operator of the level releases. -/
def Level.rank : Level → Nat
  | sum => 1
  | product => 2
  | factor => 3

theorem Level.rank_le_rank_next (level : Level) : level.rank ≤ level.next.rank := by
  cases level <;> decide

theorem rank_operator (operator : Operator) :
    rank operator.token.text = .ok operator.level.rank := by
  cases operator <;> rfl

theorem rank_sign (sign : Sign) : rank sign.token.text = .ok 3 := by
  cases sign <;> rfl

theorem Yields.rank {level : Level} {token : Token} (yields : Yields level token) :
    token.kind = .operator ∧ ∃ found, rank token.text = .ok found ∧ level.rank ≤ found := by
  induction yields with
  | sign sign => exact ⟨by cases sign <;> rfl, 3, rank_sign sign, Nat.le_refl 3⟩
  | operator operator => exact ⟨rfl, operator.level.rank, rank_operator operator, Nat.le_refl _⟩
  | @outer level token _ ih =>
      obtain ⟨kind, found, ranked, bound⟩ := ih
      exact ⟨kind, found, ranked, Nat.le_trans level.rank_le_rank_next bound⟩

/-- A parenthesis that waits has no rank; any other token that stays has a lower one than the level,
signs excepted, which stay when another sign arrives. -/
theorem Rests.rank {level : Level} {token : Token} (rests : Rests level token) :
    token.kind = .openParen ∨ ∃ found, Expression.rank token.text = .ok found ∧
      (found < level.rank ∨ level = .factor ∧ found ≤ 3) := by
  induction rests with
  | opening => exact .inl rfl
  | operator operator =>
      refine .inr ⟨operator.level.rank, rank_operator operator, ?_⟩
      cases operator <;> decide
  | sign sign => exact .inr ⟨3, rank_sign sign, .inr ⟨rfl, Nat.le_refl 3⟩⟩
  | @inner level token _ ih =>
      rcases ih with parenthesis | ⟨found, ranked, below | ⟨same, bound⟩⟩
      · exact .inl parenthesis
      · exact .inr ⟨found, ranked, .inl (Nat.lt_of_lt_of_le below level.rank_le_rank_next)⟩
      · subst same
        exact .inr ⟨found, ranked, .inr ⟨rfl, bound⟩⟩

theorem operator_not_unary (operator : Operator) :
    Token.unarySymbols.contains operator.token.text = false := by
  cases operator <;> rfl

theorem sign_unary (sign : Sign) : Token.unarySymbols.contains sign.token.text = true := by
  cases sign <;> rfl

theorem yields_to_of_ranks {waiting arriving : Token} {waitingRank arrivingRank : Nat}
    (kind : waiting.kind = .operator) (waits : rank waiting.text = .ok waitingRank)
    (arrives : rank arriving.text = .ok arrivingRank) :
    yieldsTo waiting arriving =
      .ok (if Token.unarySymbols.contains arriving.text then decide (arrivingRank < waitingRank)
        else decide (arrivingRank ≤ waitingRank)) := by
  unfold yieldsTo
  rw [if_pos kind, waits, arrives]
  rfl

theorem yields_to_of_not_operator {waiting arriving : Token} (kind : waiting.kind ≠ .operator) :
    yieldsTo waiting arriving = .ok false := by
  unfold yieldsTo
  rw [if_neg kind]
  rfl

theorem yields_to_operator_of_yields {operator : Operator} {token : Token}
    (yields : Yields operator.level token) : yieldsTo token operator.token = .ok true := by
  obtain ⟨kind, found, ranked, bound⟩ := yields.rank
  rw [yields_to_of_ranks kind ranked (rank_operator operator), operator_not_unary]
  simpa using bound

theorem yields_to_operator_of_rests {operator : Operator} {token : Token}
    (rests : Rests operator.level token) : yieldsTo token operator.token = .ok false := by
  by_cases kind : token.kind = .operator
  · rcases rests.rank with parenthesis | ⟨found, ranked, bound⟩
    · rw [kind] at parenthesis
      contradiction
    · have below : found < operator.level.rank := by
        rcases bound with below | ⟨same, _⟩
        · exact below
        · cases operator <;> contradiction
      rw [yields_to_of_ranks kind ranked (rank_operator operator), operator_not_unary]
      simpa using below
  · exact yields_to_of_not_operator kind

theorem yields_to_sign_of_rests {sign : Sign} {token : Token} (rests : Rests .factor token) :
    yieldsTo token sign.token = .ok false := by
  by_cases kind : token.kind = .operator
  · rcases rests.rank with parenthesis | ⟨found, ranked, bound⟩
    · rw [kind] at parenthesis
      contradiction
    · have atMost : found ≤ 3 := by
        rcases bound with below | ⟨_, bound⟩
        · exact Nat.le_of_lt below
        · exact bound
      rw [yields_to_of_ranks kind ranked (rank_sign sign), sign_unary]
      simpa using atMost
  · exact yields_to_of_not_operator kind

theorem release_operator {operator : Operator} {pending waiting : List Token}
    (yields : ∀ token ∈ pending, Yields operator.level token)
    (rests : ∀ top ∈ waiting.head?, Rests operator.level top) :
    release operator.token (pending ++ waiting) = .ok (pending, waiting) := by
  induction pending with
  | nil =>
      cases waiting with
      | nil => rfl
      | cons top below =>
          rw [List.nil_append, release, yields_to_operator_of_rests (rests top rfl)]
  | cons token pending ih =>
      have rest := ih fun other member => yields other (List.mem_cons_of_mem _ member)
      rw [List.cons_append, release, yields_to_operator_of_yields (yields token List.mem_cons_self),
        rest]
      rfl

theorem release_sign (sign : Sign) {waiting : List Token}
    (rests : ∀ top ∈ waiting.head?, Rests .factor top) :
    release sign.token waiting = .ok ([], waiting) := by
  cases waiting with
  | nil => rfl
  | cons top below => rw [release, yields_to_sign_of_rests (rests top rfl)]

/-- Run on the terminals, whatever follows them, the reordering emits tokens and goes on with others
waiting. -/
def Emits (waiting : List Token) (terminals : List Terminal) (emitted kept : List Token) : Prop :=
  ∀ rest, postfixAfter waiting (terminals.map Terminal.token ++ rest) =
    (postfixAfter kept rest).map (emitted ++ ·)

theorem Emits.append {waiting middle kept first second : List Token}
    {before behind : List Terminal} (left : Emits waiting before first middle)
    (right : Emits middle behind second kept) :
    Emits waiting (before ++ behind) (first ++ second) kept := by
  intro rest
  rw [List.map_append, List.append_assoc, left, right]
  cases postfixAfter kept rest with
  | error fault => rfl
  | ok queue => simp [Except.map]

theorem emits_figure (waiting : List Token) (figure : Figure) :
    Emits waiting [.figure figure] [figure.token] waiting := by
  intro rest
  cases share : figure.isShare <;> simp [postfixAfter, Terminal.token, Figure.token, share]

theorem emits_opening (waiting : List Token) :
    Emits waiting [.opening] [] (Terminal.opening.token :: waiting) := by
  intro rest
  cases run : postfixAfter (Terminal.opening.token :: waiting) rest <;>
    simpa [postfixAfter, Terminal.token, Token.bare, Except.map] using run

theorem emits_sign (sign : Sign) {waiting : List Token}
    (rests : ∀ top ∈ waiting.head?, Rests .factor top) :
    Emits waiting [.sign sign] [] (sign.token :: waiting) := by
  intro rest
  have kind : sign.token.kind = .operator := by
    cases sign <;> rfl
  simp only [List.map_cons, List.map_nil, List.cons_append, List.nil_append, Terminal.token,
    postfixAfter, kind, release_sign sign rests]

theorem emits_operator {operator : Operator} {pending waiting : List Token}
    (yields : ∀ token ∈ pending, Yields operator.level token)
    (rests : ∀ top ∈ waiting.head?, Rests operator.level top) :
    Emits (pending ++ waiting) [.operator operator] pending (operator.token :: waiting) := by
  intro rest
  have kind : operator.token.kind = .operator := rfl
  simp only [List.map_cons, List.map_nil, List.cons_append, List.nil_append, Terminal.token,
    postfixAfter, kind, release_operator yields rests]

theorem Yields.not_opening {level : Level} {token : Token} (yields : Yields level token) :
    (token.kind != .openParen) = true := by
  rw [yields.rank.1]
  rfl

theorem emits_closing {pending waiting : List Token}
    (yields : ∀ token ∈ pending, Yields .sum token) :
    Emits (pending ++ Terminal.opening.token :: waiting) [.closing] pending waiting := by
  intro rest
  have others : ∀ token ∈ pending, (token.kind != .openParen) = true :=
    fun token member => (yields token member).not_opening
  have opened : (Terminal.opening.token.kind != .openParen) = false := rfl
  have closed : Terminal.closing.token.kind = .closeParen := rfl
  simp only [List.map_cons, List.map_nil, List.cons_append, List.nil_append, postfixAfter, closed,
    List.dropWhile_append_of_pos others, List.takeWhile_append_of_pos others, List.dropWhile_cons,
    List.takeWhile_cons, opened, Bool.false_eq_true, if_false, List.append_nil]

/-- The invariant of the reordering along a derivation: what a part of an expression emits, followed
by what it leaves waiting, is the listing of its tree, and what it leaves yields to the operators of
the part's level. -/
theorem emits_of_derives {level : Level} {tree : Tree} {terminals : List Terminal}
    (derived : Derives level tree terminals) (waiting : List Token)
    (rests : ∀ top ∈ waiting.head?, Rests level top) :
    ∃ emitted pending, emitted ++ pending = tree.postorder ∧
      (∀ token ∈ pending, Yields level token) ∧
      Emits waiting terminals emitted (pending ++ waiting) := by
  induction derived generalizing waiting with
  | figure figure =>
      exact ⟨[figure.token], [], rfl, by simp, emits_figure waiting figure⟩
  | signed sign _ ih =>
      obtain ⟨emitted, pending, listing, yields, run⟩ := ih (sign.token :: waiting) (by
        intro top member
        cases Option.some.inj member
        exact .sign sign)
      refine ⟨emitted, pending ++ [sign.token], ?_, ?_, ?_⟩
      · rw [← List.append_assoc, listing]
        rfl
      · intro token member
        rcases List.mem_append.1 member with member | member
        · exact yields token member
        · cases List.mem_singleton.1 member
          exact .sign sign
      · rw [List.append_assoc]
        exact (emits_sign sign rests).append run
  | @group tree terminals _ ih =>
      obtain ⟨emitted, pending, listing, yields, run⟩ :=
        ih (Terminal.opening.token :: waiting) (by
          intro top member
          cases Option.some.inj member
          exact .opening)
      refine ⟨tree.postorder, [], List.append_nil _, by simp, ?_⟩
      rw [← listing]
      exact (emits_opening waiting).append (run.append (emits_closing yields))
  | single _ ih =>
      obtain ⟨emitted, pending, listing, yields, run⟩ :=
        ih waiting fun top member => .inner (rests top member)
      exact ⟨emitted, pending, listing, fun token member => .outer (yields token member), run⟩
  | @combined left right before behind operator _ _ ihLeft ihRight =>
      -- What the left operand leaves waiting yields to the operator, which then waits itself.
      obtain ⟨first, leftPending, leftListing, leftYields, leftRun⟩ := ihLeft waiting rests
      obtain ⟨second, pending, listing, yields, rightRun⟩ :=
        ihRight (operator.token :: waiting) (by
          intro top member
          cases Option.some.inj member
          exact .operator operator)
      refine ⟨first ++ (leftPending ++ second), pending ++ [operator.token], ?_, ?_, ?_⟩
      · rw [Tree.postorder, ← leftListing, ← listing]
        simp only [List.append_assoc]
      · intro token member
        rcases List.mem_append.1 member with member | member
        · exact .outer (yields token member)
        · cases List.mem_singleton.1 member
          exact .operator operator
      · rw [List.append_assoc]
        exact leftRun.append ((emits_operator leftYields rests).append rightRun)

theorem to_postfix_of_derives {tree : Tree} {terminals : List Terminal}
    (derived : Derives .sum tree terminals) :
    toPostfix (terminals.map Terminal.token) = .ok tree.postorder := by
  obtain ⟨emitted, pending, listing, yields, run⟩ := emits_of_derives derived [] (by simp)
  have noGroup : pending.any isParenthesis = false := by
    rw [List.any_eq_false]
    intro token member
    simp [isParenthesis, (yields token member).rank.1]
  have finished := run []
  simp only [List.append_nil, postfixAfter, noGroup, Bool.false_eq_true, if_false] at finished
  rw [toPostfix, finished, ← listing]
  rfl

end Reckoner.Expression
