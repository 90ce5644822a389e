import Reckoner.Expression.Value
import Reckoner.Proofs.Expression.Grammar

/-!
# Calculating on a stack

Carried out on a stack of operands, the listing of a tree puts the value of the tree on top, as a
share exactly if the tree is one. The stack is at any time a forest of the trees read so far, so a
queue comes to a value only if it is the listing of a tree; on any other queue the calculation fails
as a malformed expression.
-/

namespace Reckoner.Expression

set_option autoImplicit false

def Tree.operand (tree : Tree) : Operand :=
  if tree.isShare then .share (some tree.value) else .plain (some tree.value)

theorem Tree.number_operand (tree : Tree) : tree.operand.number = some tree.value := by
  unfold operand
  split <;> rfl

theorem Tree.operand_combined (operator : Operator) (left right : Tree) :
    (combined operator left right).operand =
      .plain (some (combined operator left right).value) := rfl

theorem step_figure (figure : Figure) (stack : List Operand) :
    step stack figure.token = .ok ((Tree.leaf figure).operand :: stack) := by
  unfold Tree.operand
  cases share : figure.isShare <;> simp [step, Figure.token, Tree.isShare, Tree.value, share]

theorem step_sign (sign : Sign) (tree : Tree) (below : List Operand) :
    step (tree.operand :: below) sign.token = .ok ((Tree.signed sign tree).operand :: below) := by
  cases sign with
  | plus => rfl
  | minus =>
      cases share : tree.isShare <;>
        simp [step, Sign.token, Token.bare, Token.isUnaryOperator, Token.unarySymbols,
          Token.unaryPlus, Token.unaryMinus, Tree.operand, Tree.isShare, Tree.value, share,
          Operand.negated, Operand.opposite, Except.map]

/-- Sums and differences take a share of the other operand, the right one being asked first;
products and quotients take the plain numbers. -/
theorem combination_operands (operator : Operator) (left right : Tree) :
    Operand.combination operator.token.text left.operand right.operand =
      .ok (Tree.combined operator left right).value := by
  have leftNumber := left.number_operand
  have rightNumber := right.number_operand
  cases operator with
  | plus =>
      cases leftShare : left.isShare <;> cases rightShare : right.isShare <;>
        simp [Operand.combination, Operator.token, Operator.char, Token.bare, Operand.sum,
          Operand.part, Operand.calculated, Operand.number, Tree.operand, Tree.value, leftShare,
          rightShare, bind, Except.bind]
  | minus =>
      cases leftShare : left.isShare <;> cases rightShare : right.isShare <;>
        simp [Operand.combination, Operator.token, Operator.char, Token.bare, Operand.difference,
          Operand.part, Operand.calculated, Operand.number, Tree.operand, Tree.value, leftShare,
          rightShare, bind, Except.bind]
  | times =>
      simp [Operand.combination, Operator.token, Operator.char, Token.bare, Operand.product,
        leftNumber, rightNumber, Operand.calculated, Tree.value]
  | divide =>
      cases zero : right.value.isZero <;>
        simp [Operand.combination, Operator.token, Operator.char, Token.bare, Operand.quotient,
          leftNumber, rightNumber, Operand.calculated, Tree.value, zero]

theorem step_operator (operator : Operator) (left right : Tree) (below : List Operand) :
    step (right.operand :: left.operand :: below) operator.token =
      .ok ((Tree.combined operator left right).operand :: below) := by
  have binary : operator.token.isUnaryOperator = false := by
    cases operator <;> rfl
  have kind : operator.token.kind = .operator := rfl
  simp only [step, kind, binary, Bool.false_eq_true, if_false, Operand.combined,
    combination_operands, Tree.operand_combined]
  rfl

theorem foldlM_postorder (tree : Tree) (stack : List Operand) :
    tree.postorder.foldlM step stack = .ok (tree.operand :: stack) := by
  induction tree generalizing stack with
  | leaf figure =>
      rw [Tree.postorder, List.foldlM_cons, step_figure]
      rfl
  | signed sign operand ih =>
      rw [Tree.postorder, List.foldlM_append, ih]
      change (List.foldlM step (operand.operand :: stack) [sign.token]) = _
      rw [List.foldlM_cons, step_sign]
      rfl
  | combined operator left right ihLeft ihRight =>
      rw [Tree.postorder, List.foldlM_append, ihLeft]
      change List.foldlM step (left.operand :: stack) (right.postorder ++ [operator.token]) = _
      rw [List.foldlM_append, ihRight]
      change List.foldlM step (right.operand :: left.operand :: stack) [operator.token] = _
      rw [List.foldlM_cons, step_operator]
      rfl

theorem postorder_ne_nil (tree : Tree) : tree.postorder ≠ [] := by
  cases tree <;> simp [Tree.postorder]

theorem number_of_postfix_postorder (tree : Tree) :
    numberOfPostfix tree.postorder = .ok (some tree.value) := by
  have run := foldlM_postorder tree []
  unfold numberOfPostfix
  rw [run]
  change Except.ok tree.operand.number = _
  rw [tree.number_operand]

theorem value_of_postfix_postorder (tree : Tree) :
    valueOfPostfix tree.postorder = .ok tree.value := by
  rw [valueOfPostfix, number_of_postfix_postorder]
  rfl

/-- The tokens that the listings of trees consist of. -/
inductive Calculable : Token → Prop
  | figure (figure : Figure) : Calculable figure.token
  | sign (sign : Sign) : Calculable sign.token
  | operator (operator : Operator) : Calculable operator.token

def listings (forest : List Tree) : List Token :=
  forest.reverse.flatMap Tree.postorder

theorem listings_cons (tree : Tree) (forest : List Tree) :
    listings (tree :: forest) = listings forest ++ tree.postorder := by
  simp [listings]

theorem step_forest {token : Token} (calculable : Calculable token) (forest : List Tree) :
    (∃ grown, step (forest.map Tree.operand) token = .ok (grown.map Tree.operand) ∧
      listings forest ++ [token] = listings grown) ∨
    ∃ symbol, step (forest.map Tree.operand) token = .error (.missingOperand symbol) := by
  cases calculable with
  | figure figure =>
      refine .inl ⟨.leaf figure :: forest, step_figure figure _, ?_⟩
      rw [listings_cons]
      rfl
  | sign sign =>
      cases forest with
      | nil => exact .inr ⟨sign.token.text.drop 1, by cases sign <;> rfl⟩
      | cons tree below =>
          refine .inl ⟨.signed sign tree :: below, step_sign sign tree _, ?_⟩
          rw [listings_cons, listings_cons, List.append_assoc]
          rfl
  | operator operator =>
      match forest with
      | [] => exact .inr ⟨operator.token.text, by cases operator <;> rfl⟩
      | [_] => exact .inr ⟨operator.token.text, by cases operator <;> rfl⟩
      | right :: left :: below =>
          refine .inl ⟨.combined operator left right :: below,
            step_operator operator left right _, ?_⟩
          rw [listings_cons, listings_cons, listings_cons, List.append_assoc, List.append_assoc]
          rfl

/-- The invariant of the calculation: the stack is always the forest of the trees listed so far. -/
theorem foldlM_forest (queue : List Token) (calculable : ∀ token ∈ queue, Calculable token)
    (forest : List Tree) :
    (∃ grown, queue.foldlM step (forest.map Tree.operand) = .ok (grown.map Tree.operand) ∧
      listings forest ++ queue = listings grown) ∨
    ∃ symbol, queue.foldlM step (forest.map Tree.operand) = .error (.missingOperand symbol) := by
  -- The forest grows and shrinks with each token, so it varies in the induction.
  induction queue generalizing forest with
  | nil => exact .inl ⟨forest, rfl, List.append_nil _⟩
  | cons token queue ih =>
      rw [List.foldlM_cons]
      rcases step_forest (calculable token List.mem_cons_self) forest with
        ⟨grown, first, listed⟩ | ⟨symbol, failed⟩
      · rw [first]
        have rest := ih (fun other member => calculable other (List.mem_cons_of_mem _ member)) grown
        rw [← listed, List.append_assoc] at rest
        exact rest
      · rw [failed]
        exact .inr ⟨symbol, rfl⟩

/-- A queue comes to a number exactly if it is the listing of a tree; any other queue is malformed.
-/
theorem number_of_postfix_cases (queue : List Token)
    (calculable : ∀ token ∈ queue, Calculable token) :
    (∃ tree : Tree, queue = tree.postorder ∧ numberOfPostfix queue = .ok (some tree.value)) ∨
    ∃ fault, numberOfPostfix queue = .error fault ∧
      fault.category? = some .malformedExpression := by
  rcases foldlM_forest queue calculable [] with ⟨grown, run, listed⟩ | ⟨symbol, failed⟩
  · match grown with
    | [tree] =>
        have same : queue = tree.postorder := by
          rw [listings_cons] at listed
          simpa [listings] using listed
        exact .inl ⟨tree, same, by rw [same]; exact number_of_postfix_postorder tree⟩
    | [] =>
        refine .inr ⟨.leftoverOperands, ?_, rfl⟩
        rw [numberOfPostfix, show List.foldlM step [] queue = _ from run]
        rfl
    | _ :: _ :: _ =>
        refine .inr ⟨.leftoverOperands, ?_, rfl⟩
        rw [numberOfPostfix, show List.foldlM step [] queue = _ from run]
        rfl
  · refine .inr ⟨.missingOperand symbol, ?_, rfl⟩
    rw [numberOfPostfix, show List.foldlM step [] queue = _ from failed]
    rfl

/-- The same of the value, for which a missing number would not be a failure. -/
theorem value_of_postfix_cases (queue : List Token)
    (calculable : ∀ token ∈ queue, Calculable token) :
    (∃ tree : Tree, queue = tree.postorder ∧ valueOfPostfix queue = .ok tree.value) ∨
    ∃ fault, valueOfPostfix queue = .error fault ∧
      fault.category? = some .malformedExpression := by
  unfold valueOfPostfix
  rcases number_of_postfix_cases queue calculable with
    ⟨tree, listing, run⟩ | ⟨fault, failed, category⟩
  · exact .inl ⟨tree, listing, by rw [run]; rfl⟩
  · exact .inr ⟨fault, by rw [failed]; rfl, category⟩

end Reckoner.Expression
