import Reckoner.Proofs.Expression.Calculation

/-!
# Queues and trees

A queue of numbers and operators comes to a number exactly if it is the listing of a tree. A listing
is read from its end: the last token is the root, and what stands before it falls into the listings
of the operands in one way only. Hence there is one such tree at most, and no parentheses are
needed.
-/

namespace Reckoner.Expression

set_option autoImplicit false

section Uniqueness

def Tree.root : Tree → Token
  | .leaf figure => figure.token
  | .signed sign _ => sign.token
  | .combined operator _ _ => operator.token

def Tree.operands : Tree → List Token
  | .leaf _ => []
  | .signed _ operand => operand.postorder
  | .combined _ left right => left.postorder ++ right.postorder

theorem Tree.postorder_eq (tree : Tree) : tree.postorder = tree.operands ++ [tree.root] := by
  cases tree with
  | leaf figure => rfl
  | signed sign operand => rfl
  | combined operator left right => exact (List.append_assoc _ _ _).symm

theorem is_operand_figure (figure : Figure) : figure.token.isOperand = true := by
  unfold Token.isOperand Figure.token
  cases figure.isShare <;> rfl

theorem is_operand_sign (sign : Sign) : sign.token.isOperand = false := by
  cases sign <;> rfl

theorem is_operand_operator (operator : Operator) : operator.token.isOperand = false := rfl

theorem Figure.token_injective {figure other : Figure} (same : figure.token = other.token) :
    figure = other := by
  obtain ⟨text, value, isShare⟩ := figure
  obtain ⟨otherText, otherValue, otherShare⟩ := other
  simp only [Figure.token, Token.mk.injEq, Option.some.injEq] at same
  obtain ⟨kinds, rfl, rfl⟩ := same
  cases isShare <;> cases otherShare <;> simp at kinds ⊢

theorem Sign.token_injective {sign other : Sign} (same : sign.token = other.token) :
    sign = other := by
  cases sign <;> cases other <;>
    simp [Sign.token, Token.bare, Token.unaryPlus, Token.unaryMinus] at same ⊢

theorem Operator.token_injective {operator other : Operator}
    (same : operator.token = other.token) : operator = other := by
  cases operator <;> cases other <;> simp [Operator.token, Token.bare, Operator.char] at same ⊢

theorem figure_token_ne_sign (figure : Figure) (sign : Sign) : figure.token ≠ sign.token := by
  intro same
  have operand := is_operand_figure figure
  rw [same, is_operand_sign] at operand
  contradiction

theorem figure_token_ne_operator (figure : Figure) (operator : Operator) :
    figure.token ≠ operator.token := by
  intro same
  have operand := is_operand_figure figure
  rw [same, is_operand_operator] at operand
  contradiction

theorem sign_token_ne_operator (sign : Sign) (operator : Operator) :
    sign.token ≠ operator.token := by
  cases sign <;> cases operator <;> decide

theorem parts_of_append_postorder {tree other : Tree} {front before : List Token}
    (same : front ++ tree.postorder = before ++ other.postorder) :
    front ++ tree.operands = before ++ other.operands ∧ tree.root = other.root := by
  rw [tree.postorder_eq, other.postorder_eq, ← List.append_assoc, ← List.append_assoc] at same
  obtain ⟨operands, roots⟩ := List.append_inj' same rfl
  exact ⟨operands, List.singleton_inj.1 roots⟩

/-- What ends in the listing of a tree ends in no other listing. -/
theorem eq_of_append_postorder {tree other : Tree} {front before : List Token}
    (same : front ++ tree.postorder = before ++ other.postorder) :
    front = before ∧ tree = other := by
  -- Behind what is common, the operand on the right ends in both, so what precedes it varies.
  induction tree generalizing other front before with
  | leaf figure =>
      obtain ⟨operands, roots⟩ := parts_of_append_postorder same
      cases other with
      | leaf found =>
          cases Figure.token_injective roots
          exact ⟨List.append_cancel_right operands, rfl⟩
      | signed sign operand => exact absurd roots (figure_token_ne_sign figure sign)
      | combined operator left right =>
          exact absurd roots (figure_token_ne_operator figure operator)
  | signed sign operand ih =>
      obtain ⟨operands, roots⟩ := parts_of_append_postorder same
      cases other with
      | leaf figure => exact absurd roots.symm (figure_token_ne_sign figure sign)
      | signed found below =>
          cases Sign.token_injective roots
          obtain ⟨rfl, rfl⟩ := ih operands
          exact ⟨rfl, rfl⟩
      | combined operator left right => exact absurd roots (sign_token_ne_operator sign operator)
  | combined operator left right ihLeft ihRight =>
      obtain ⟨operands, roots⟩ := parts_of_append_postorder same
      cases other with
      | leaf figure => exact absurd roots.symm (figure_token_ne_operator figure operator)
      | signed sign operand => exact absurd roots.symm (sign_token_ne_operator sign operator)
      | combined found otherLeft otherRight =>
          cases Operator.token_injective roots
          rw [Tree.operands, Tree.operands, ← List.append_assoc, ← List.append_assoc] at operands
          obtain ⟨lefts, rfl⟩ := ihRight operands
          obtain ⟨rfl, rfl⟩ := ihLeft lefts
          exact ⟨rfl, rfl⟩

theorem Tree.postorder_injective {tree other : Tree} (same : tree.postorder = other.postorder) :
    tree = other := by
  have ends : [] ++ tree.postorder = [] ++ other.postorder := same
  exact (eq_of_append_postorder ends).2

end Uniqueness

/-- A token that queues are made of: a number or an operator of the notation. -/
def isQueued (token : Token) : Bool :=
  token.isOperand && token.value.isSome || token.isUnaryOperator || token.isBinaryOperator

/-- The token with what a calculation looks at. An operator may be given a number, which has no
meaning. -/
def essential (token : Token) : Token :=
  if token.isOperand then token else .bare token.kind token.text

def Lists (queue : List Token) (tree : Tree) : Prop :=
  queue.map essential = tree.postorder

theorem step_essential (stack : List Operand) (token : Token) :
    step stack (essential token) = step stack token := by
  unfold essential
  split
  · rfl
  · rename_i other
    obtain ⟨kind, text, value⟩ := token
    cases kind with
    | number | percent => exact absurd rfl other
    | _ => rfl

theorem number_of_postfix_essential (queue : List Token) :
    numberOfPostfix (queue.map essential) = numberOfPostfix queue := by
  unfold numberOfPostfix
  rw [List.foldlM_map]
  simp only [step_essential]

theorem calculable_of_operand {token : Token} (operand : token.isOperand = true)
    (numbered : token.value.isSome = true) : Calculable token := by
  obtain ⟨kind, text, value⟩ := token
  obtain ⟨number, rfl⟩ := Option.isSome_iff_exists.1 numbered
  cases kind with
  | number => exact .figure ⟨text, number, false⟩
  | percent => exact .figure ⟨text, number, true⟩
  | _ => contradiction

theorem essential_of_operator {token : Token} (operator : token.kind = .operator) :
    essential token = .bare .operator token.text := by
  unfold essential Token.isOperand
  rw [operator]
  rfl

theorem calculable_of_unary {token : Token} (unary : token.isUnaryOperator = true) :
    Calculable (essential token) := by
  simp only [Token.isUnaryOperator, Token.unarySymbols, Bool.and_eq_true, decide_eq_true_eq,
    List.contains_eq_mem, List.mem_cons, List.not_mem_nil, or_false] at unary
  obtain ⟨kind, symbol | symbol⟩ := unary
  · rw [essential_of_operator kind, symbol]
    exact .sign .plus
  · rw [essential_of_operator kind, symbol]
    exact .sign .minus

theorem calculable_of_binary {token : Token} (binary : token.isBinaryOperator = true) :
    Calculable (essential token) := by
  simp only [Token.isBinaryOperator, Token.binarySymbols, Bool.and_eq_true, decide_eq_true_eq,
    List.contains_eq_mem, List.mem_cons, List.not_mem_nil, or_false] at binary
  obtain ⟨kind, symbol | symbol | symbol | symbol⟩ := binary
  · rw [essential_of_operator kind, symbol]
    exact .operator .plus
  · rw [essential_of_operator kind, symbol]
    exact .operator .minus
  · rw [essential_of_operator kind, symbol]
    exact .operator .times
  · rw [essential_of_operator kind, symbol]
    exact .operator .divide

theorem calculable_essential {token : Token} (queued : isQueued token = true) :
    Calculable (essential token) := by
  simp only [isQueued, Bool.or_eq_true, Bool.and_eq_true] at queued
  rcases queued with (⟨operand, numbered⟩ | unary) | binary
  · rw [essential, if_pos operand]
    exact calculable_of_operand operand numbered
  · exact calculable_of_unary unary
  · exact calculable_of_binary binary

theorem Lists.ne_nil {queue : List Token} {tree : Tree} (lists : Lists queue tree) :
    queue ≠ [] := by
  rintro rfl
  exact postorder_ne_nil tree lists.symm

theorem Lists.unique {queue : List Token} {tree other : Tree} (lists : Lists queue tree)
    (again : Lists queue other) : tree = other :=
  Tree.postorder_injective (lists.symm.trans again)

theorem Lists.postfix_number {queue : List Token} {tree : Tree} (lists : Lists queue tree) :
    numberOfPostfix queue = .ok (some tree.value) := by
  rw [← number_of_postfix_essential, lists, number_of_postfix_postorder]

/-- A queue is the listing of a tree or malformed. -/
theorem lists_or_malformed {queue : List Token} (queued : ∀ token ∈ queue, isQueued token = true) :
    (∃ tree, Lists queue tree) ∨
      ∃ fault, numberOfPostfix queue = .error fault ∧
        fault.category? = some .malformedExpression := by
  have calculable : ∀ token ∈ queue.map essential, Calculable token := by
    intro token member
    obtain ⟨given, listed, rfl⟩ := List.mem_map.1 member
    exact calculable_essential (queued given listed)
  rw [← number_of_postfix_essential]
  rcases number_of_postfix_cases (queue.map essential) calculable with ⟨tree, listing, _⟩ | failure
  · exact .inl ⟨tree, listing⟩
  · exact .inr failure

/-- A queue comes to a number exactly if it is the listing of a tree, and then to the value of that
tree, which is the only one. Any other queue, and the empty one is among them, is malformed. -/
theorem only_listings_have_number {queue : List Token}
    (queued : ∀ token ∈ queue, isQueued token = true) :
    (∀ number, numberOfPostfix queue = .ok number ↔
      ∃ tree, Lists queue tree ∧ number = some tree.value) ∧
    (∀ tree other, Lists queue tree → Lists queue other → tree = other) ∧
    (∀ tree, Lists queue tree → queue ≠ []) ∧
    ((∀ tree, ¬Lists queue tree) → ∃ fault, numberOfPostfix queue = .error fault ∧
      fault.category? = some .malformedExpression) := by
  refine ⟨?_, fun tree other => Lists.unique, fun tree => Lists.ne_nil, ?_⟩
  · intro number
    constructor
    · intro run
      rcases lists_or_malformed queued with ⟨tree, lists⟩ | ⟨fault, failed, _⟩
      · rw [lists.postfix_number] at run
        exact ⟨tree, lists, (Except.ok.inj run).symm⟩
      · rw [failed] at run
        contradiction
    · rintro ⟨tree, lists, rfl⟩
      exact lists.postfix_number
  · intro none
    exact (lists_or_malformed queued).resolve_left fun ⟨tree, lists⟩ => none tree lists

def queuedDigits (digits : Text) (isPercent : Bool) : Token :=
  .ofNumeral ⟨digits, [], isPercent⟩

/-- A tenth taken off under a sign: the percent literal stays a share. -/
theorem hundred_and_opposite_tenth :
    (∀ token ∈ [queuedDigits "100".toList false, queuedDigits "10".toList true,
      Sign.minus.token, Operator.plus.token], isQueued token = true) ∧
    numberOfPostfix [queuedDigits "100".toList false, queuedDigits "10".toList true,
      Sign.minus.token, Operator.plus.token] = .ok (some (Binary64.ofDecimal 90 0)) := by
  have queued : ∀ token ∈ [queuedDigits "100".toList false, queuedDigits "10".toList true,
      Sign.minus.token, Operator.plus.token], isQueued token = true := by
    decide +kernel
  refine ⟨queued, ((only_listings_have_number queued).1 _).2 ?_⟩
  refine ⟨.combined .plus (.leaf (.ofNumeral ⟨"100".toList, [], false⟩))
    (.signed .minus (.leaf (.ofNumeral ⟨"10".toList, [], true⟩))), ?_, ?_⟩
  · unfold Lists
    decide +kernel
  · decide +kernel

end Reckoner.Expression
