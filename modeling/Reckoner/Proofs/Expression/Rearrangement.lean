import Mathlib.Data.List.Perm.Basic
import Mathlib.Data.List.TakeWhile
import Reckoner.Expression.Postfix
import Reckoner.Proofs.Success
import Reckoner.Proofs.Token.Literal

/-!
# How tokens move through the reordering

Leaving aside how tightly they bind, tokens are moved in few ways. An operand comes out where it
arrives. An operator waits on the stack, from which some operators on top of it may come out first.
An opening parenthesis waits too, and leaves with its closing one when all that waits above has come
out. So none but the parentheses is lost and none is invented, whatever the tokens are.

The ways are stated for items that have a token, so that equal tokens can be told apart.
-/

namespace Reckoner.Expression

set_option autoImplicit false

def withoutParentheses (tokens : List Token) : List Token :=
  tokens.filter fun token => !isParenthesis token

section Movement

variable {Item : Type} (token : Item → Token)

/-- With some items waiting, others arrive; some come out then, and those that are kept wait. -/
inductive Moves : List Item → List Item → List Item → List Item → Prop
  | done (waiting : List Item) : Moves waiting [] [] waiting
  | operand {item : Item} {waiting rest emitted kept : List Item} :
      (token item).isOperand = true → Moves waiting rest emitted kept →
      Moves waiting (item :: rest) (item :: emitted) kept
  | operator {item : Item} {released held rest emitted kept : List Item} :
      (token item).kind = .operator → (∀ top ∈ released, (token top).kind = .operator) →
      Moves (item :: held) rest emitted kept →
      Moves (released ++ held) (item :: rest) (released ++ emitted) kept
  | opening {item : Item} {waiting rest emitted kept : List Item} :
      (token item).kind = .openParen → Moves (item :: waiting) rest emitted kept →
      Moves waiting (item :: rest) emitted kept
  | closing {item opener : Item} {above below rest emitted kept : List Item} :
      (token item).kind = .closeParen → (token opener).kind = .openParen →
      (∀ top ∈ above, (token top).kind = .operator) → Moves below rest emitted kept →
      Moves (above ++ opener :: below) (item :: rest) (above ++ emitted) kept

def Stacked (waiting : List Item) : Prop :=
  ∀ top ∈ waiting, (token top).kind = .operator ∨ (token top).kind = .openParen

def emissible (items : List Item) : List Item :=
  items.filter fun item => !isParenthesis (token item)

variable {token}

section Emissible

variable {item : Item} {items others : List Item}

theorem is_parenthesis_of_operator (operator : (token item).kind = .operator) :
    isParenthesis (token item) = false := by
  simp [isParenthesis, operator]

theorem is_parenthesis_of_operand (operand : (token item).isOperand = true) :
    isParenthesis (token item) = false := by
  simp only [Token.isOperand] at operand
  split at operand
  · rename_i kind
    simp [isParenthesis, kind]
  · rename_i kind
    simp [isParenthesis, kind]
  · contradiction

theorem emissible_append :
    emissible token (items ++ others) = emissible token items ++ emissible token others :=
  List.filter_append _ _

theorem emissible_cons_of_parenthesis (parenthesis : isParenthesis (token item) = true) :
    emissible token (item :: others) = emissible token others :=
  List.filter_cons_of_neg (by simp [parenthesis])

theorem emissible_cons_of_other (other : isParenthesis (token item) = false) :
    emissible token (item :: others) = item :: emissible token others :=
  List.filter_cons_of_pos (by simp [other])

theorem emissible_of_operators (operators : ∀ top ∈ items, (token top).kind = .operator) :
    emissible token items = items :=
  List.filter_eq_self.2 fun top member => by
    rw [is_parenthesis_of_operator (operators top member)]
    rfl

end Emissible

section Invariants

variable {waiting arriving emitted kept : List Item}

theorem Moves.stacked (moves : Moves token waiting arriving emitted kept)
    (stacked : Stacked token waiting) : Stacked token kept := by
  induction moves with
  | done waiting => exact stacked
  | operand _ _ ih => exact ih stacked
  | operator kind _ _ ih =>
      apply ih
      exact List.forall_mem_cons.2 ⟨.inl kind, (List.forall_mem_append.1 stacked).2⟩
  | opening kind _ ih => exact ih (List.forall_mem_cons.2 ⟨.inr kind, stacked⟩)
  | closing _ _ _ _ ih =>
      exact ih (List.forall_mem_cons.1 (List.forall_mem_append.1 stacked).2).2

/-- What comes out and what still waits is, parentheses aside, what waited and what arrived. -/
theorem Moves.perm (moves : Moves token waiting arriving emitted kept) :
    (emitted ++ emissible token kept).Perm
      (emissible token waiting ++ emissible token arriving) := by
  induction moves with
  | done waiting => exact List.Perm.of_eq (List.append_nil _).symm
  | operand operand _ ih =>
      rw [emissible_cons_of_other (is_parenthesis_of_operand operand)]
      exact (ih.cons _).trans List.perm_middle.symm
  | @operator item released held rest emitted kept kind operators _ ih =>
      have other := is_parenthesis_of_operator kind
      rw [emissible_cons_of_other other] at ih
      rw [emissible_cons_of_other other, emissible_append, emissible_of_operators operators,
        List.append_assoc, List.append_assoc]
      exact (ih.trans List.perm_middle.symm).append_left released
  | @opening item _ _ _ _ kind _ ih =>
      have parenthesis : isParenthesis (token item) = true := by simp [isParenthesis, kind]
      rwa [emissible_cons_of_parenthesis parenthesis] at ih ⊢
  | closing closing opening operators _ ih =>
      rw [emissible_cons_of_parenthesis (by simp [isParenthesis, closing]), emissible_append,
        emissible_of_operators operators,
        emissible_cons_of_parenthesis (by simp [isParenthesis, opening]), List.append_assoc,
        List.append_assoc]
      exact ih.append_left _

end Invariants

end Movement

theorem kind_of_yields_to {waiting arriving : Token}
    (yields : yieldsTo waiting arriving = .ok true) :
    waiting.kind = .operator := by
  by_contra other
  rw [yieldsTo, if_neg other] at yields
  contradiction

/-- What is released and what is kept make up what waited, and only operators are released. -/
theorem append_of_release {arriving : Token} {waiting released kept : List Token}
    (run : release arriving waiting = .ok (released, kept)) :
    released ++ kept = waiting ∧ ∀ token ∈ released, token.kind = .operator := by
  induction waiting generalizing released with
  | nil =>
      cases run
      exact ⟨rfl, List.forall_mem_nil _⟩
  | cons top below ih =>
      unfold release at run
      cases compared : yieldsTo top arriving with
      | error fault =>
          rw [compared] at run
          contradiction
      | ok yields =>
          rw [compared] at run
          cases yields with
          | false =>
              cases run
              exact ⟨rfl, List.forall_mem_nil _⟩
          | true =>
              cases deeper : release arriving below with
              | error fault =>
                  rw [deeper] at run
                  contradiction
              | ok parts =>
                  rw [deeper] at run
                  cases run
                  obtain ⟨whole, operators⟩ := ih deeper
                  refine ⟨by rw [List.cons_append, whole], ?_⟩
                  exact List.forall_mem_cons.2 ⟨kind_of_yields_to compared, operators⟩

section Instance

variable {Item : Type} {token : Item → Token} {waiting arriving : List Item} {queue : List Token}

/-- The operators above the innermost open parenthesis, that parenthesis, and what waits below. -/
theorem split_of_dropWhile {top : Token} {under : List Token} (stacked : Stacked token waiting)
    (dropped : (waiting.map token).dropWhile (·.kind != .openParen) = top :: under) :
    ∃ above opener below, waiting = above ++ opener :: below ∧
      (∀ item ∈ above, (token item).kind = .operator) ∧ (token opener).kind = .openParen ∧
      (waiting.map token).takeWhile (·.kind != .openParen) = above.map token ∧
      under = below.map token := by
  have stops := head_dropWhile (·.kind != .openParen) (waiting.map token) top (by rw [dropped]; rfl)
  rw [List.dropWhile_map, List.map_eq_cons_iff] at dropped
  obtain ⟨opener, below, dropped, rfl, rfl⟩ := dropped
  have whole := List.takeWhile_append_dropWhile (p := (·.kind != .openParen) ∘ token) (l := waiting)
  rw [dropped] at whole
  refine ⟨_, opener, below, whole.symm, ?_, by simpa using stops, List.takeWhile_map, rfl⟩
  intro item above
  have other := List.mem_takeWhile_imp above
  have waits := stacked item (List.takeWhile_subset _ above)
  exact waits.resolve_right (by simpa using other)

/-- The reordering moves the items in one of the possible ways, after which only operators wait. -/
theorem moves_of_postfix_after (stacked : Stacked token waiting)
    (ordered : postfixAfter (waiting.map token) (arriving.map token) = .ok queue) :
    ∃ emitted kept, Moves token waiting arriving emitted kept ∧
      (∀ top ∈ kept, (token top).kind = .operator) ∧ queue = (emitted ++ kept).map token := by
  -- The stack varies from item to item, and with it the queue of the rest.
  induction arriving generalizing waiting queue with
  | nil =>
      rw [List.map_nil, postfixAfter] at ordered
      split at ordered
      · contradiction
      · rename_i none
        cases ordered
        refine ⟨[], waiting, .done waiting, fun top member => ?_, rfl⟩
        apply (stacked top member).resolve_right
        intro opening
        apply none
        rw [List.any_eq_true]
        exact ⟨token top, List.mem_map_of_mem member, by simp [isParenthesis, opening]⟩
  | cons item rest ih =>
      rw [List.map_cons, postfixAfter] at ordered
      split at ordered
      case h_1 kind | h_2 kind =>
        obtain ⟨others, run, rfl⟩ := exists_of_map_eq_ok ordered
        obtain ⟨emitted, kept, moves, operators, rfl⟩ := ih stacked run
        have operand : (token item).isOperand = true := by simp [Token.isOperand, kind]
        exact ⟨item :: emitted, kept, .operand operand moves, operators, rfl⟩
      case h_3 kind =>
        split at ordered
        · contradiction
        · rename_i released kept parts
          obtain ⟨others, run, rfl⟩ := exists_of_map_eq_ok ordered
          obtain ⟨whole, leave⟩ := append_of_release parts
          obtain ⟨top, held, rfl, rfl, rfl⟩ := List.append_eq_map_iff.1 whole
          have stack : Stacked token (item :: held) :=
            List.forall_mem_cons.2 ⟨.inl kind, (List.forall_mem_append.1 stacked).2⟩
          obtain ⟨emitted, kept, moves, operators, rfl⟩ := ih stack run
          refine ⟨top ++ emitted, kept, .operator kind ?_ moves, operators, ?_⟩
          · exact fun member found => leave _ (List.mem_map_of_mem found)
          · rw [← List.map_append, List.append_assoc]
      case h_4 kind =>
        have stack : Stacked token (item :: waiting) :=
          List.forall_mem_cons.2 ⟨.inr kind, stacked⟩
        obtain ⟨emitted, kept, moves, operators, rfl⟩ := ih stack ordered
        exact ⟨emitted, kept, .opening kind moves, operators, rfl⟩
      case h_5 kind =>
        split at ordered
        · contradiction
        · rename_i top under dropped
          obtain ⟨others, run, rfl⟩ := exists_of_map_eq_ok ordered
          obtain ⟨above, opener, below, rfl, leave, opening, taken, rfl⟩ :=
            split_of_dropWhile stacked dropped
          have stack : Stacked token below := fun member found =>
            stacked member (List.mem_append_right _ (List.mem_cons_of_mem _ found))
          obtain ⟨emitted, kept, moves, operators, rfl⟩ := ih stack run
          refine ⟨above ++ emitted, kept, .closing kind opening leave moves, operators, ?_⟩
          rw [taken, ← List.map_append, List.append_assoc]
      all_goals contradiction

end Instance

/-- From an empty stack the items come out as they are moved, those that still wait at the end. -/
theorem to_postfix_moves {Item : Type} {token : Item → Token} {items : List Item}
    {queue : List Token} (ordered : toPostfix (items.map token) = .ok queue) :
    ∃ emitted kept, Moves token [] items emitted kept ∧
      (∀ top ∈ kept, (token top).kind = .operator) ∧ queue = (emitted ++ kept).map token :=
  moves_of_postfix_after (List.forall_mem_nil _) ordered

theorem to_postfix_perm {tokens queue : List Token} (ordered : toPostfix tokens = .ok queue) :
    queue.Perm (withoutParentheses tokens) := by
  rw [← List.map_id tokens] at ordered
  obtain ⟨emitted, kept, moves, operators, rfl⟩ := to_postfix_moves ordered
  have moved := moves.perm
  rwa [emissible_of_operators operators, ← List.map_id (emitted ++ kept)] at moved

end Reckoner.Expression
