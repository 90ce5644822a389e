import Reckoner.Proofs.Expression.Calculation
import Reckoner.Proofs.Expression.Placement

/-!
# Reordering any terminals

The reordering looks at parentheses only. It never asks whether a token stands in its place, so on
any list of terminals it comes to a queue if the parentheses match and fails if they do not.
-/

namespace Reckoner.Expression

set_option autoImplicit false

inductive Waits : Token → Prop
  | opening : Waits Terminal.opening.token
  | sign (sign : Sign) : Waits sign.token
  | operator (operator : Operator) : Waits operator.token

def openings (waiting : List Token) : Nat :=
  waiting.countP fun token => token.kind = .openParen

@[simp] theorem openings_opening (waiting : List Token) :
    openings (Terminal.opening.token :: waiting) = openings waiting + 1 :=
  List.countP_cons_of_pos rfl

@[simp] theorem openings_sign (sign : Sign) (waiting : List Token) :
    openings (sign.token :: waiting) = openings waiting := by
  cases sign <;> rfl

@[simp] theorem openings_operator (operator : Operator) (waiting : List Token) :
    openings (operator.token :: waiting) = openings waiting := by
  cases operator <;> rfl

theorem Waits.calculable {token : Token} (waits : Waits token) (other : token.kind ≠ .openParen) :
    Calculable token := by
  cases waits with
  | opening => exact absurd rfl other
  | sign sign => exact .sign sign
  | operator operator => exact .operator operator

theorem Waits.rank {token : Token} (waits : Waits token) (other : token.kind ≠ .openParen) :
    token.kind = .operator ∧ ∃ found, Expression.rank token.text = .ok found := by
  cases waits with
  | opening => exact absurd rfl other
  | sign sign => exact ⟨by cases sign <;> rfl, 3, rank_sign sign⟩
  | operator operator => exact ⟨rfl, operator.level.rank, rank_operator operator⟩

theorem Waits.yields_to {waiting arriving : Token} (waits : Waits waiting) {arrivingRank : Nat}
    (arrives : Expression.rank arriving.text = .ok arrivingRank) :
    ∃ yields, Expression.yieldsTo waiting arriving = .ok yields ∧
      (yields = true → waiting.kind ≠ .openParen) := by
  by_cases opening : waiting.kind = .openParen
  · refine ⟨false, yields_to_of_not_operator ?_, by simp⟩
    rw [opening]
    decide
  · obtain ⟨kind, found, ranked⟩ := waits.rank opening
    exact ⟨_, yields_to_of_ranks kind ranked arrives, fun _ => opening⟩

theorem openings_of_opening {token : Token} (opening : token.kind = .openParen)
    (waiting : List Token) : openings (token :: waiting) = openings waiting + 1 :=
  List.countP_cons_of_pos (by simpa using opening)

theorem openings_of_other {token : Token} (other : token.kind ≠ .openParen)
    (waiting : List Token) : openings (token :: waiting) = openings waiting :=
  List.countP_cons_of_neg (by simpa using other)

/-- Releasing never fails, leaves the open parentheses on the stack and takes only what can be
calculated with. -/
theorem release_of_waits {arriving : Token} {arrivingRank : Nat}
    (arrives : Expression.rank arriving.text = .ok arrivingRank) (waiting : List Token)
    (waits : ∀ token ∈ waiting, Waits token) :
    ∃ released kept, release arriving waiting = .ok (released, kept) ∧
      (∀ token ∈ released, Calculable token) ∧ (∀ token ∈ kept, Waits token) ∧
      openings kept = openings waiting := by
  induction waiting with
  | nil => exact ⟨[], [], rfl, by simp, waits, rfl⟩
  | cons top below ih =>
      obtain ⟨topWaits, belowWaits⟩ := List.forall_mem_cons.1 waits
      obtain ⟨yields, compared, other⟩ := topWaits.yields_to arrives
      cases yields with
      | false => exact ⟨[], top :: below, by rw [release, compared], by simp, waits, rfl⟩
      | true =>
          obtain ⟨released, kept, run, calculable, keptWaits, count⟩ := ih belowWaits
          have all := List.forall_mem_cons.2 ⟨topWaits.calculable (other rfl), calculable⟩
          refine ⟨top :: released, kept, ?_, all, keptWaits, ?_⟩
          · rw [release, compared, run]
            rfl
          · rw [count, openings_of_other (other rfl)]

/-- A closing parenthesis finds the innermost open one on the stack unless none is open, and what
waits above it can be calculated with. -/
theorem innermost_of_waits (waiting : List Token) (waits : ∀ token ∈ waiting, Waits token) :
    (waiting.dropWhile (·.kind != .openParen) = [] ∧ openings waiting = 0) ∨
    ∃ top below, waiting.dropWhile (·.kind != .openParen) = top :: below ∧
      (∀ token ∈ waiting.takeWhile (·.kind != .openParen), Calculable token) ∧
      (∀ token ∈ below, Waits token) ∧ openings waiting = openings below + 1 := by
  induction waiting with
  | nil => exact .inl ⟨rfl, rfl⟩
  | cons top below ih =>
      obtain ⟨topWaits, belowWaits⟩ := List.forall_mem_cons.1 waits
      by_cases opening : top.kind = .openParen
      · have stops : (top.kind != .openParen) = false := by simpa using opening
        refine .inr ⟨top, below, ?_, ?_, belowWaits, openings_of_opening opening below⟩
        · simp only [List.dropWhile_cons, stops, Bool.false_eq_true, if_false]
        · simp only [List.takeWhile_cons, stops, Bool.false_eq_true, if_false]
          exact List.forall_mem_nil _
      · have goesOn : (top.kind != .openParen) = true := by simpa using opening
        simp only [List.dropWhile_cons, List.takeWhile_cons, goesOn, if_true,
          openings_of_other opening]
        rcases ih belowWaits with none | ⟨inner, under, dropped, calculable, underWaits, count⟩
        · exact .inl none
        · have all := List.forall_mem_cons.2 ⟨topWaits.calculable opening, calculable⟩
          exact .inr ⟨inner, under, dropped, all, underWaits, count⟩

theorem any_is_parenthesis_of_waits {waiting : List Token}
    (waits : ∀ token ∈ waiting, Waits token) :
    waiting.any isParenthesis = (openings waiting != 0) := by
  rw [Bool.eq_iff_iff, List.any_eq_true, bne_iff_ne, openings, ← Nat.pos_iff_ne_zero,
    List.countP_pos_iff]
  constructor
  · rintro ⟨token, member, parenthesis⟩
    refine ⟨token, member, ?_⟩
    cases waits token member with
    | opening => rfl
    | sign sign => cases sign <;> contradiction
    | operator operator => contradiction
  · rintro ⟨token, member, opening⟩
    exact ⟨token, member, by simp [isParenthesis, by simpa using opening]⟩

/-- With the tokens waiting, the terminals are reordered into what can be calculated if their
parentheses match, and else the reordering fails. -/
def Reorders (waiting : List Token) (terminals : List Terminal) : Prop :=
  if parenthesesMatch (openings waiting) (terminals.map Terminal.token) then
    ∃ queue, postfixAfter waiting (terminals.map Terminal.token) = .ok queue ∧
      ∀ token ∈ queue, Calculable token
  else postfixAfter waiting (terminals.map Terminal.token) = .error .mismatchedParentheses

/-- A terminal that emits tokens fit to be calculated with hands the question on to the rest. -/
theorem Reorders.cons {waiting kept emitted : List Token} {terminal : Terminal}
    {rest : List Terminal} (run : Emits waiting [terminal] emitted kept)
    (calculable : ∀ token ∈ emitted, Calculable token)
    (depth : parenthesesMatch (openings waiting) (terminal.token :: rest.map Terminal.token) =
      parenthesesMatch (openings kept) (rest.map Terminal.token))
    (reorders : Reorders kept rest) : Reorders waiting (terminal :: rest) := by
  have first := run (rest.map Terminal.token)
  rw [List.map_cons, List.map_nil, List.cons_append, List.nil_append] at first
  unfold Reorders at reorders ⊢
  rw [List.map_cons, depth, first]
  split
  · rename_i closed
    rw [if_pos closed] at reorders
    obtain ⟨queue, ordered, others⟩ := reorders
    refine ⟨emitted ++ queue, ?_, List.forall_mem_append.2 ⟨calculable, others⟩⟩
    rw [ordered]
    rfl
  · rename_i unclosed
    rw [if_neg unclosed] at reorders
    rw [reorders]
    rfl

theorem reorders_nil {waiting : List Token} (waits : ∀ token ∈ waiting, Waits token) :
    Reorders waiting [] := by
  unfold Reorders
  rw [List.map_nil, postfixAfter, any_is_parenthesis_of_waits waits, parenthesesMatch]
  by_cases none : openings waiting = 0
  · rw [none]
    refine ⟨waiting, rfl, ?_⟩
    intro token member
    apply (waits token member).calculable
    rw [openings, List.countP_eq_zero] at none
    simpa using none token member
  · simp [none]

theorem emits_released (terminal : Terminal) {waiting released kept : List Token}
    (kind : terminal.token.kind = .operator)
    (run : release terminal.token waiting = .ok (released, kept)) :
    Emits waiting [terminal] released (terminal.token :: kept) := by
  intro rest
  simp only [List.map_cons, List.map_nil, List.cons_append, List.nil_append, postfixAfter, kind,
    run]

/-- Whatever waits, any terminals are reordered if their parentheses match. -/
theorem reorders_terminals (terminals : List Terminal) (waiting : List Token)
    (waits : ∀ token ∈ waiting, Waits token) : Reorders waiting terminals := by
  -- Only the number of open parentheses on the stack matters, so the stack varies in the induction.
  induction terminals generalizing waiting with
  | nil => exact reorders_nil waits
  | cons terminal rest ih =>
      cases terminal with
      | figure figure =>
          have emits := emits_figure waiting figure
          have calculable : ∀ token ∈ [figure.token], Calculable token :=
            List.forall_mem_singleton.2 (.figure figure)
          apply Reorders.cons emits calculable _ (ih waiting waits)
          exact parentheses_match_figure _ figure _
      | opening =>
          have stack := List.forall_mem_cons.2 ⟨Waits.opening, waits⟩
          apply Reorders.cons (emits_opening waiting) (by simp) _ (ih _ stack)
          rw [parentheses_match_opening, openings_opening]
      | sign sign =>
          obtain ⟨released, kept, run, calculable, keptWaits, count⟩ :=
            release_of_waits (rank_sign sign) waiting waits
          have emits := emits_released (.sign sign) (by cases sign <;> rfl) run
          have stack := List.forall_mem_cons.2 ⟨Waits.sign sign, keptWaits⟩
          apply Reorders.cons emits calculable _ (ih _ stack)
          rw [Terminal.token, parentheses_match_sign, openings_sign, count]
      | operator operator =>
          obtain ⟨released, kept, run, calculable, keptWaits, count⟩ :=
            release_of_waits (rank_operator operator) waiting waits
          have emits := emits_released (.operator operator) rfl run
          have stack := List.forall_mem_cons.2 ⟨Waits.operator operator, keptWaits⟩
          apply Reorders.cons emits calculable _ (ih _ stack)
          rw [Terminal.token, parentheses_match_operator, openings_operator, count]
      | closing =>
          have closing : Terminal.closing.token.kind = .closeParen := rfl
          rcases innermost_of_waits waiting waits with
            ⟨dropped, none⟩ | ⟨top, below, dropped, calculable, belowWaits, count⟩
          · unfold Reorders
            rw [none, List.map_cons, if_neg (by simp [parenthesesMatch, closing])]
            simp only [postfixAfter, closing, dropped]
          · have emits :
                Emits waiting [.closing] (waiting.takeWhile (·.kind != .openParen)) below := by
              intro others
              simp only [List.map_cons, List.map_nil, List.cons_append, List.nil_append,
                postfixAfter, closing, dropped]
            apply Reorders.cons emits calculable _ (ih below belowWaits)
            rw [count, parentheses_match_closing]

theorem openings_nil : openings [] = 0 := rfl

theorem to_postfix_of_match {terminals : List Terminal}
    (closed : parenthesesMatch 0 (terminals.map Terminal.token) = true) :
    ∃ queue, toPostfix (terminals.map Terminal.token) = .ok queue ∧
      ∀ token ∈ queue, Calculable token := by
  have reorders := reorders_terminals terminals [] (by simp)
  unfold Reorders at reorders
  rwa [openings_nil, if_pos closed] at reorders

theorem to_postfix_of_mismatch {terminals : List Terminal}
    (unclosed : parenthesesMatch 0 (terminals.map Terminal.token) = false) :
    toPostfix (terminals.map Terminal.token) = .error .mismatchedParentheses := by
  have reorders := reorders_terminals terminals [] (by simp)
  unfold Reorders at reorders
  rwa [openings_nil, if_neg (by simp [unclosed])] at reorders

end Reckoner.Expression
