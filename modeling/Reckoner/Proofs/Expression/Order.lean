import Reckoner.Proofs.Expression.Parentheses
import Reckoner.Proofs.Expression.Rearrangement

/-!
# The order of a queue

Tokens that are put into postfix order are numbered with their places, so that those of a queue can
be told apart. Operands stay in the order they are written in, an operator comes behind all operands
before it, and what stands in parentheses comes out before anything behind them.
-/

namespace Reckoner.Expression

set_option autoImplicit false

section Movement

variable {Item : Type} {token : Item → Token} {waiting emitted kept : List Item}

/-- What arrives in two parts is moved in two parts. -/
theorem Moves.cut {front behind : List Item}
    (moves : Moves token waiting (front ++ behind) emitted kept) :
    ∃ first held second, emitted = first ++ second ∧ Moves token waiting front first held ∧
      Moves token held behind second kept := by
  induction front generalizing waiting emitted with
  | nil => exact ⟨[], waiting, emitted, rfl, .done waiting, moves⟩
  | cons item front ih =>
      cases moves with
      | operand operand moves =>
          obtain ⟨first, held, second, rfl, started, finished⟩ := ih moves
          exact ⟨item :: first, held, second, rfl, .operand operand started, finished⟩
      | @operator _ released under _ _ _ kind operators moves =>
          obtain ⟨first, held, second, rfl, started, finished⟩ := ih moves
          refine ⟨released ++ first, held, second, ?_, .operator kind operators started, finished⟩
          exact (List.append_assoc _ _ _).symm
      | opening kind moves =>
          obtain ⟨first, held, second, rfl, started, finished⟩ := ih moves
          exact ⟨first, held, second, rfl, .opening kind started, finished⟩
      | @closing _ opener above below _ _ _ closing opening operators moves =>
          obtain ⟨first, held, second, rfl, started, finished⟩ := ih moves
          refine ⟨above ++ first, held, second, ?_, .closing closing opening operators started,
            finished⟩
          exact (List.append_assoc _ _ _).symm

theorem filter_is_operand_of_operators {items : List Item}
    (operators : ∀ top ∈ items, (token top).kind = .operator) :
    items.filter (fun item => (token item).isOperand) = [] := by
  rw [List.filter_eq_nil_iff]
  intro top member
  simp [Token.isOperand, operators top member]

/-- Operands never wait, so they come out in the order in which they arrive. -/
theorem Moves.operands {arriving : List Item}
    (moves : Moves token waiting arriving emitted kept) :
    emitted.filter (fun item => (token item).isOperand) =
      arriving.filter fun item => (token item).isOperand := by
  induction moves with
  | done waiting => rfl
  | operand operand _ ih => simp only [List.filter_cons, operand, if_true, ih]
  | operator kind operators _ ih =>
      rw [List.filter_append, filter_is_operand_of_operators operators, List.nil_append, ih,
        List.filter_cons_of_neg (by simp [Token.isOperand, kind])]
  | opening kind _ ih => rw [ih, List.filter_cons_of_neg (by simp [Token.isOperand, kind])]
  | closing closing opening operators _ ih =>
      rw [List.filter_append, filter_is_operand_of_operators operators, List.nil_append, ih,
        List.filter_cons_of_neg (by simp [Token.isOperand, closing])]

theorem Moves.of_opening {item : Item} {rest : List Item}
    (opening : (token item).kind = .openParen)
    (moves : Moves token waiting (item :: rest) emitted kept) :
    Moves token (item :: waiting) rest emitted kept := by
  cases moves with
  | operand operand => simp [Token.isOperand, opening] at operand
  | operator kind => simp [opening] at kind
  | opening _ moves => exact moves
  | closing kind => simp [opening] at kind

theorem Moves.of_closing {item : Item} {rest : List Item}
    (closing : (token item).kind = .closeParen)
    (moves : Moves token waiting (item :: rest) emitted kept) :
    ∃ above opener below others, waiting = above ++ opener :: below ∧
      (token opener).kind = .openParen ∧ (∀ top ∈ above, (token top).kind = .operator) ∧
      emitted = above ++ others ∧ Moves token below rest others kept := by
  cases moves with
  | operand operand => simp [Token.isOperand, closing] at operand
  | operator kind => simp [closing] at kind
  | opening kind => simp [closing] at kind
  | closing _ opening operators moves => exact ⟨_, _, _, _, rfl, opening, operators, rfl, moves⟩

section Groups

variable {opener : Item} {below : List Item}

theorem openings_of_operators {items : List Item}
    (operators : ∀ top ∈ items, (token top).kind = .operator) :
    openings (items.map token) = 0 := by
  rw [openings, List.countP_map, List.countP_eq_zero]
  intro top member
  simp [operators top member]

theorem openings_append (tokens others : List Token) :
    openings (tokens ++ others) = openings tokens + openings others :=
  List.countP_append

/-- Operators on top of the stack end above any parenthesis on it. -/
theorem append_of_operators {operators held above : List Item}
    (all : ∀ top ∈ operators, (token top).kind = .operator)
    (opening : (token opener).kind = .openParen)
    (same : operators ++ held = above ++ opener :: below) :
    ∃ middle, above = operators ++ middle ∧ held = middle ++ opener :: below := by
  rcases List.append_eq_append_iff.1 same with ⟨middle, first, second⟩ | ⟨middle, first, second⟩
  · exact ⟨middle, first, second⟩
  · cases middle with
    | nil => exact ⟨[], by simpa using first.symm, second.symm⟩
    | cons top middle =>
        cases second
        have kind := all opener (by rw [first]; simp)
        rw [opening] at kind
        contradiction

/-- While the parentheses that arrive match those above an open one, this stays, and what is below
it. -/
theorem Moves.keeps_below {above inside : List Item}
    (moves : Moves token (above ++ opener :: below) inside emitted kept)
    (opening : (token opener).kind = .openParen)
    (matched : parenthesesMatch (openings (above.map token)) (inside.map token) = true) :
    ∃ top, kept = top ++ opener :: below ∧ openings (top.map token) = 0 := by
  -- What is above the parenthesis grows and shrinks, and the depth is its number of open ones.
  generalize same : above ++ opener :: below = stack at moves
  induction moves generalizing above with
  | done =>
      rw [List.map_nil, parenthesesMatch, beq_iff_eq] at matched
      exact ⟨above, same.symm, matched⟩
  | @operand item _ _ _ _ operand _ ih =>
      have other : isParenthesis (token item) = false := is_parenthesis_of_operand operand
      simp only [isParenthesis, Bool.or_eq_false_iff, decide_eq_false_iff_not] at other
      rw [List.map_cons, parentheses_match_skip other.1 other.2] at matched
      exact ih matched same
  | @operator item released held _ _ _ kind operators _ ih =>
      obtain ⟨middle, rfl, rfl⟩ := append_of_operators operators opening same.symm
      rw [List.map_cons, parentheses_match_skip (by simp [kind]) (by simp [kind]), List.map_append,
        openings_append, openings_of_operators operators, Nat.zero_add] at matched
      apply @ih (item :: middle) _ rfl
      rwa [List.map_cons, openings_of_other (by simp [kind])]
  | @opening item _ _ _ _ kind _ ih =>
      rw [List.map_cons, parentheses_match_of_opening kind] at matched
      apply @ih (item :: above) _ (by rw [← same]; rfl)
      rwa [List.map_cons, openings_of_opening kind]
  | @closing item inner others under _ _ _ closing innerOpening operators _ ih =>
      obtain ⟨depth, count, rest⟩ := parentheses_match_of_closing closing matched
      obtain ⟨middle, rfl, left⟩ := append_of_operators operators opening same.symm
      rw [List.map_append, openings_append, openings_of_operators operators, Nat.zero_add] at count
      cases middle with
      | nil => contradiction
      | cons first middle =>
          cases left
          rw [List.map_cons, openings_of_opening innerOpening, Nat.add_right_cancel_iff] at count
          rw [← count] at rest
          exact ih rest rfl

/-- Behind a group in parentheses, what waited before it waits again. -/
theorem Moves.restores {opener closer : Item} {inside : List Item}
    (moves : Moves token waiting (opener :: (inside ++ [closer])) emitted kept)
    (opening : (token opener).kind = .openParen) (closing : (token closer).kind = .closeParen)
    (matched : parenthesesMatch 0 (inside.map token) = true) : kept = waiting := by
  obtain ⟨first, held, second, rfl, started, finished⟩ := (moves.of_opening opening).cut
  have opened : Moves token ([] ++ opener :: waiting) inside first held := started
  obtain ⟨top, rfl, none⟩ := opened.keeps_below opening matched
  obtain ⟨above, inner, below, others, same, innerOpening, operators, rfl, rest⟩ :=
    finished.of_closing closing
  obtain ⟨middle, rfl, under⟩ := append_of_operators operators opening same.symm
  cases middle with
  | nil =>
      cases under
      cases rest
      rfl
  | cons item middle =>
      cases under
      rw [List.map_append, openings_append, List.map_cons, openings_of_opening innerOpening] at none
      omega

end Groups

/-- What arrives comes out at some time, parentheses aside. -/
theorem Moves.mem_behind {arriving : List Item} {item : Item}
    (moves : Moves token waiting arriving emitted kept) (member : item ∈ arriving)
    (other : isParenthesis (token item) = false) : item ∈ emitted ++ kept := by
  have listed : item ∈ emissible token arriving := List.mem_filter.2 ⟨member, by simp [other]⟩
  have found := moves.perm.mem_iff.2 (List.mem_append_right _ listed)
  rcases List.mem_append.1 found with found | found
  · exact List.mem_append_left _ found
  · exact List.mem_append_right _ (List.mem_of_mem_filter found)

theorem Moves.mem_operand {arriving : List Item} {item : Item}
    (moves : Moves token waiting arriving emitted kept) (member : item ∈ arriving)
    (operand : (token item).isOperand = true) : item ∈ emitted := by
  have listed : item ∈ arriving.filter fun item => (token item).isOperand :=
    List.mem_filter.2 ⟨member, operand⟩
  rw [← moves.operands] at listed
  exact List.mem_of_mem_filter listed

/-- From a group in parentheses all comes out, and nothing else does meanwhile. -/
theorem Moves.perm_of_group {opener closer : Item} {inside : List Item}
    (moves : Moves token waiting (opener :: (inside ++ [closer])) emitted kept)
    (opening : (token opener).kind = .openParen) (closing : (token closer).kind = .closeParen)
    (matched : parenthesesMatch 0 (inside.map token) = true) :
    emitted.Perm (emissible token (opener :: (inside ++ [closer]))) := by
  have moved := moves.perm
  rw [moves.restores opening closing matched] at moved
  exact (List.perm_append_left_iff _).1 (List.perm_append_comm.trans moved)

end Movement

section Places

variable {front behind : List Token} {start : Nat} {entry : Token × Nat}

theorem mem_zipIdx_front (member : entry ∈ (front ++ behind).zipIdx start)
    (place : entry.2 < start + front.length) : entry ∈ front.zipIdx start := by
  rw [List.zipIdx_append] at member
  rcases List.mem_append.1 member with found | found
  · exact found
  · have bound := List.le_snd_of_mem_zipIdx found
    omega

theorem mem_zipIdx_behind (member : entry ∈ (front ++ behind).zipIdx start)
    (place : start + front.length ≤ entry.2) : entry ∈ behind.zipIdx (start + front.length) := by
  rw [List.zipIdx_append] at member
  rcases List.mem_append.1 member with found | found
  · have bound := List.snd_lt_add_of_mem_zipIdx found
    omega
  · exact found

end Places

/-- The parentheses at the two places of a list match. -/
def Matching (tokens : List Token) (first last : Nat) : Prop :=
  ∃ before opener inside closer behind, tokens = before ++ opener :: (inside ++ closer :: behind) ∧
    opener.kind = .openParen ∧ closer.kind = .closeParen ∧ parenthesesMatch 0 inside = true ∧
    first = before.length ∧ last = before.length + 1 + inside.length

/-- An order in which the tokens of a list, each with its place there, are put into a queue. -/
structure Emission (tokens : List Token) (order : List (Token × Nat)) : Prop where
  complete : order.Perm (tokens.zipIdx.filter fun entry => !isParenthesis entry.1)
  operands : order.filter (fun entry => entry.1.isOperand) =
    tokens.zipIdx.filter fun entry => entry.1.isOperand
  operator_behind : ∀ operand ∈ tokens.zipIdx, ∀ operator ∈ tokens.zipIdx,
    operand.1.isOperand = true → operator.1.kind = .operator → operand.2 < operator.2 →
    [operand, operator].Sublist order
  group_ahead : ∀ first last, Matching tokens first last →
    ∀ inner ∈ tokens.zipIdx, ∀ later ∈ tokens.zipIdx, isParenthesis inner.1 = false →
    isParenthesis later.1 = false → first < inner.2 → inner.2 < last → last < later.2 →
    [inner, later].Sublist order

section Numbered

variable {tokens : List Token} {emitted kept : List (Token × Nat)}

theorem sublist_of_mem {first second : List (Token × Nat)} {entry later : Token × Nat}
    (ahead : entry ∈ first) (behind : later ∈ second) : [entry, later].Sublist (first ++ second) :=
  (List.singleton_sublist.2 ahead).append (List.singleton_sublist.2 behind)

theorem operator_behind_of_moves (moves : Moves Prod.fst [] tokens.zipIdx emitted kept)
    {operand operator : Token × Nat} (before : operand ∈ tokens.zipIdx)
    (member : operator ∈ tokens.zipIdx) (isOperand : operand.1.isOperand = true)
    (kind : operator.1.kind = .operator) (places : operand.2 < operator.2) :
    [operand, operator].Sublist (emitted ++ kept) := by
  obtain ⟨front, behind, rfl, length⟩ :
      ∃ front behind, tokens = front ++ behind ∧ front.length = operator.2 := by
    have bound := List.snd_lt_add_of_mem_zipIdx member
    refine ⟨tokens.take operator.2, tokens.drop operator.2, ?_, ?_⟩
    · exact (List.take_append_drop _ _).symm
    · rw [List.length_take]
      omega
  have ahead := mem_zipIdx_front before (by omega)
  have later := mem_zipIdx_behind member (by omega)
  rw [List.zipIdx_append] at moves
  obtain ⟨first, held, second, rfl, started, finished⟩ := moves.cut
  rw [List.append_assoc]
  apply sublist_of_mem (started.mem_operand ahead isOperand)
  exact finished.mem_behind later (@is_parenthesis_of_operator _ Prod.fst _ kind)

theorem group_ahead_of_moves (moves : Moves Prod.fst [] tokens.zipIdx emitted kept)
    {first last : Nat} (matching : Matching tokens first last) {inner later : Token × Nat}
    (inside : inner ∈ tokens.zipIdx) (behind : later ∈ tokens.zipIdx)
    (innerOther : isParenthesis inner.1 = false) (laterOther : isParenthesis later.1 = false)
    (opened : first < inner.2) (closed : inner.2 < last) (follows : last < later.2) :
    [inner, later].Sublist (emitted ++ kept) := by
  obtain ⟨before, opener, group, closer, rest, rfl, opening, closing, matched, rfl, rfl⟩ := matching
  have parts : before ++ opener :: (group ++ closer :: rest) =
      before ++ (opener :: (group ++ [closer]) ++ rest) := by simp
  rw [parts] at moves inside behind
  have inRest := mem_zipIdx_behind (mem_zipIdx_behind behind (by omega)) (by simp; omega)
  have inGroup := mem_zipIdx_front (mem_zipIdx_behind inside (by omega)) (by simp; omega)
  rw [List.zipIdx_append, List.zipIdx_append] at moves
  obtain ⟨_, held, others, rfl, _, moves⟩ := moves.cut
  obtain ⟨first, kept', second, rfl, moved, finished⟩ := moves.cut
  rw [List.zipIdx_cons, List.zipIdx_append] at moved inGroup
  have comes := moved.perm_of_group opening closing (by rwa [List.zipIdx_map_fst])
  have ahead : inner ∈ first :=
    comes.mem_iff.2 (List.mem_filter.2 ⟨inGroup, by simp [innerOther]⟩)
  have pair := sublist_of_mem ahead (finished.mem_behind inRest laterOther)
  rw [List.append_assoc, List.append_assoc]
  exact pair.trans (List.sublist_append_right _ _)

end Numbered

theorem to_postfix_emission {tokens queue : List Token} (ordered : toPostfix tokens = .ok queue) :
    ∃ order, queue = order.map Prod.fst ∧ Emission tokens order := by
  rw [← List.zipIdx_map_fst 0 tokens] at ordered
  obtain ⟨emitted, kept, moves, operators, rfl⟩ := to_postfix_moves ordered
  refine ⟨emitted ++ kept, rfl, ?_, ?_, ?_, ?_⟩
  · have moved := moves.perm
    rwa [emissible_of_operators operators] at moved
  · rw [List.filter_append, filter_is_operand_of_operators operators, List.append_nil]
    exact moves.operands
  · intro operand before operator member isOperand kind places
    exact operator_behind_of_moves moves before member isOperand kind places
  · intro first last matching inner inside later behind innerOther laterOther opened closed follows
    exact group_ahead_of_moves moves matching inside behind innerOther laterOther opened closed
      follows

/-- A queue holds the tokens it was made of except for the parentheses. Its operands are in the
order they were written in, an operator is behind all operands that were written before it, and what
was written in matching parentheses is ahead of all that was written behind them. -/
theorem queue_in_order {tokens queue : List Token} (ordered : toPostfix tokens = .ok queue) :
    queue.Perm (withoutParentheses tokens) ∧
      ∃ order, queue = order.map Prod.fst ∧ Emission tokens order :=
  ⟨to_postfix_perm ordered, to_postfix_emission ordered⟩

/-- A minus in parentheses that lacks its first operand, between two equal operands. -/
def misplacedMinus : List Token :=
  [.ofNumeral ⟨['3'], [], false⟩, Terminal.opening.token, Operator.minus.token,
    .ofNumeral ⟨['3'], [], false⟩, Terminal.closing.token, Operator.plus.token]

/-- The equal operands keep their order, and the minus is ahead of the plus behind the parentheses.
-/
theorem misplaced_minus_in_order :
    ∃ queue, toPostfix misplacedMinus = .ok queue ∧
      queue.map Token.text = [['3'], ['3'], ['-'], ['+']] ∧
      ∃ order, queue = order.map Prod.fst ∧ Emission misplacedMinus order := by
  have ordered : toPostfix misplacedMinus = .ok [.ofNumeral ⟨['3'], [], false⟩,
      .ofNumeral ⟨['3'], [], false⟩, Operator.minus.token, Operator.plus.token] := by
    decide +kernel
  exact ⟨_, ordered, rfl, (queue_in_order ordered).2⟩

end Reckoner.Expression
