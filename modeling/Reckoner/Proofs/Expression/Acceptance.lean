import Reckoner.Proofs.Expression.Marking
import Reckoner.Proofs.Expression.Normal
import Reckoner.Proofs.Expression.Parentheses
import Reckoner.Proofs.Expression.Writing

/-!
# Which texts have a value

Nothing asks whether a token stands in its place. A text has a value if its reordered tokens are the
listing of a tree, and that may come about with every token of the tree misplaced; every other text
that can be cut into tokens is rejected.
-/

namespace Reckoner.Expression

set_option autoImplicit false

def Rejected (source : Text) : Prop :=
  ∃ fault, evaluate source = .error fault ∧
    (fault.category? = some .malformedExpression ∨ fault.category? = some .mismatchedParentheses)

/-- The tokens are reordered into the listing of the tree. -/
def Arranges (tokens : List Token) (tree : Tree) : Prop :=
  toPostfix tokens = .ok tree.postorder

section Cut

variable {source text : Text} {found : List Token}

theorem evaluate_of_tokens (normalized : normal source = .ok text) (read : tokens text = .ok found)
    (nonempty : found ≠ []) : evaluate source = toPostfix (markSigns found) >>= valueOfPostfix := by
  have notEmpty : found.isEmpty = false := by simpa using nonempty
  unfold evaluate postfixOf
  simp only [bind, Except.bind, normalized, read, notEmpty, Bool.false_eq_true, if_false]

theorem evaluate_of_no_tokens (normalized : normal source = .ok text)
    (read : tokens text = .ok []) : evaluate source = .error .emptyExpression := by
  unfold evaluate postfixOf
  simp only [bind, Except.bind, normalized, read, List.isEmpty_nil, if_true]
  rfl

theorem mark_signs_terminals (read : tokens text = .ok found) :
    ∃ terminals : List Terminal, markSigns found = terminals.map Terminal.token := by
  obtain ⟨terminals, same⟩ := (tokens_eq_ok_iff.1 read).terminals
  obtain ⟨marked, run⟩ := mark_signs_after_unmarked none terminals
  exact ⟨marked, by rw [markSigns, same, run]⟩

theorem not_arranges_nil (tree : Tree) : ¬Arranges [] tree := by
  intro arranges
  exact postorder_ne_nil tree (Except.ok.inj arranges).symm

/-- A text either arranges into a tree, whose value it has, or is rejected. -/
theorem evaluate_cases (normalized : normal source = .ok text) (read : tokens text = .ok found) :
    (∃ tree, Arranges (markSigns found) tree ∧ evaluate source = .ok tree.value) ∨
      (∀ tree, ¬Arranges (markSigns found) tree) ∧ Rejected source := by
  by_cases empty : found = []
  · subst empty
    refine .inr ⟨not_arranges_nil, .emptyExpression, ?_, .inl rfl⟩
    exact evaluate_of_no_tokens normalized read
  · have run := evaluate_of_tokens normalized read empty
    obtain ⟨terminals, same⟩ := mark_signs_terminals read
    cases closed : parenthesesMatch 0 (terminals.map Terminal.token) with
    | false =>
        have failed := to_postfix_of_mismatch closed
        rw [← same] at failed
        rw [failed] at run
        refine .inr ⟨?_, .mismatchedParentheses, run, .inr rfl⟩
        intro tree arranges
        rw [Arranges, failed] at arranges
        contradiction
    | true =>
        obtain ⟨queue, ordered, calculable⟩ := to_postfix_of_match closed
        rw [← same] at ordered
        rw [ordered] at run
        rcases value_of_postfix_cases queue calculable with
          ⟨tree, listing, value⟩ | ⟨fault, failed, category⟩
        · exact .inl ⟨tree, by rw [Arranges, ordered, listing], run.trans value⟩
        · refine .inr ⟨?_, fault, run.trans failed, .inl category⟩
          intro tree arranges
          rw [Arranges, ordered] at arranges
          rw [Except.ok.inj arranges, value_of_postfix_postorder] at failed
          contradiction

theorem parentheses_match_of_arranges {terminals : List Terminal} {tree : Tree}
    (arranges : Arranges (terminals.map Terminal.token) tree) :
    parenthesesMatch 0 (terminals.map Terminal.token) = true := by
  by_contra unclosed
  have failed := to_postfix_of_mismatch (by simpa using unclosed)
  rw [Arranges, failed] at arranges
  contradiction

theorem evaluate_of_arranges (normalized : normal source = .ok text)
    (read : tokens text = .ok found) {tree : Tree} (arranges : Arranges (markSigns found) tree) :
    evaluate source = .ok tree.value := by
  have nonempty : found ≠ [] := by
    intro empty
    subst empty
    exact not_arranges_nil tree arranges
  rw [evaluate_of_tokens normalized read nonempty, show toPostfix _ = _ from arranges]
  exact value_of_postfix_postorder tree

theorem not_rejected_of_value {value : Binary64} (run : evaluate source = .ok value) :
    ¬Rejected source := by
  rintro ⟨fault, failed, _⟩
  rw [run] at failed
  contradiction

theorem rejected_iff (normalized : normal source = .ok text) (read : tokens text = .ok found) :
    Rejected source ↔ ∀ tree, ¬Arranges (markSigns found) tree := by
  rcases evaluate_cases normalized read with ⟨tree, arranges, run⟩ | ⟨none, rejected⟩
  · constructor
    · intro rejected
      exact absurd rejected (not_rejected_of_value run)
    · intro none
      exact absurd arranges (none tree)
  · exact ⟨fun _ => none, fun _ => rejected⟩

theorem is_expression_iff_of_arranges (read : tokens text = .ok found) {tree : Tree}
    (arranges : Arranges (markSigns found) tree) :
    IsExpression (markSigns found) ↔ inPlaceAfter none (markSigns found) = true := by
  obtain ⟨terminals, same⟩ := mark_signs_terminals read
  rw [same] at arranges ⊢
  rw [is_expression_iff]
  exact ⟨fun both => both.1, fun placed => ⟨placed, parentheses_match_of_arranges arranges⟩⟩

theorem evaluate_eq_ok_iff (normalized : normal source = .ok text)
    (read : tokens text = .ok found) (value : Binary64) :
    evaluate source = .ok value ↔
      ∃ tree, Arranges (markSigns found) tree ∧ tree.value = value := by
  constructor
  · intro valued
    rcases evaluate_cases normalized read with ⟨tree, arranges, run⟩ | ⟨_, rejected⟩
    · rw [run] at valued
      exact ⟨tree, arranges, Except.ok.inj valued⟩
    · exact absurd rejected (not_rejected_of_value valued)
  · rintro ⟨tree, arranges, rfl⟩
    exact evaluate_of_arranges normalized read arranges

/-- Only expressions have a value and all else is rejected, except where misplaced tokens arrange
into a tree. -/
theorem only_expressions_iff (normalized : normal source = .ok text)
    (read : tokens text = .ok found) :
    ((∀ value, evaluate source = .ok value → IsExpression (markSigns found)) ∧
        (¬IsExpression (markSigns found) → Rejected source)) ↔
      (inPlaceAfter none (markSigns found) = true ∨ ∀ tree, ¬Arranges (markSigns found) tree) := by
  rcases evaluate_cases normalized read with ⟨tree, arranges, run⟩ | ⟨none, rejected⟩
  · have placement := is_expression_iff_of_arranges read arranges
    constructor
    · rintro ⟨sound, _⟩
      exact .inl (placement.1 (sound tree.value run))
    · rintro (placed | none)
      · have expression := placement.2 placed
        exact ⟨fun _ _ => expression, fun other => absurd expression other⟩
      · exact absurd arranges (none tree)
  · constructor
    · intro _
      exact .inr none
    · intro _
      refine ⟨?_, fun _ => rejected⟩
      intro value valued
      exact absurd rejected (not_rejected_of_value valued)

/-- A text has a value exactly when its tokens arrange into a tree, and is rejected otherwise. So
the texts that are no expressions are rejected, save those that have a token out of its place and
arrange into a tree all the same. -/
theorem rejected_unless_misplaced_tokens_arrange (normalized : normal source = .ok text)
    (read : tokens text = .ok found) :
    (∀ value, evaluate source = .ok value ↔
      ∃ tree, Arranges (markSigns found) tree ∧ tree.value = value) ∧
    (Rejected source ↔ ∀ tree, ¬Arranges (markSigns found) tree) ∧
    (((∀ value, evaluate source = .ok value → IsExpression (markSigns found)) ∧
        (¬IsExpression (markSigns found) → Rejected source)) ↔
      (inPlaceAfter none (markSigns found) = true ∨ ∀ tree, ¬Arranges (markSigns found) tree)) := by
  have values := evaluate_eq_ok_iff normalized read
  have rejection := rejected_iff normalized read
  exact ⟨values, rejection, only_expressions_iff normalized read⟩

end Cut

def digitNumeral (c : Char) : Numeral :=
  ⟨[c], [], false⟩

theorem well_formed_digit_numeral {c : Char} (digit : c.isDigit = true) :
    (digitNumeral c).WellFormed := by
  refine ⟨by simp [digitNumeral], ?_, by simp [digitNumeral]⟩
  intro other member
  cases List.mem_singleton.1 member
  exact digit

theorem Lexes.digit {c : Char} {rest : Text} {tokens : List Token} (digit : c.isDigit = true)
    (stops : (digitNumeral c).StopsBefore rest) (lexes : Lexes rest tokens) :
    Lexes (c :: rest) (.ofNumeral (digitNumeral c) :: tokens) :=
  .literal (well_formed_digit_numeral digit) stops lexes

/-- An operator alone in parentheses behind a number takes it as its left operand. -/
theorem operator_in_parentheses_evaluates :
    evaluate ['2', '(', '*', '3', ')'] = .ok (Binary64.ofDecimal 6 0) := by
  have normalized : normal ['2', '(', '*', '3', ')'] = .ok ['2', '(', '*', '3', ')'] := by
    decide +kernel
  have read : Lexes ['2', '(', '*', '3', ')'] [.ofNumeral (digitNumeral '2'),
      Terminal.opening.token, Operator.times.token, .ofNumeral (digitNumeral '3'),
      Terminal.closing.token] := by
    apply Lexes.digit rfl (stops_before_symbol rfl)
    apply Lexes.symbol rfl
    apply Lexes.symbol rfl
    apply Lexes.digit rfl (stops_before_symbol rfl)
    exact .symbol rfl .done
  apply ((rejected_unless_misplaced_tokens_arrange normalized (tokens_eq_ok_iff.2 read)).1 _).2
  refine ⟨.combined .times (.leaf (.ofNumeral (digitNumeral '2')))
    (.leaf (.ofNumeral (digitNumeral '3'))), ?_, ?_⟩
  · unfold Arranges
    decide +kernel
  · decide +kernel

/-- Two numbers with a plus behind both are no expression and have a value all the same. -/
theorem juxtaposed_operands_have_value :
    ¬∀ source text found, normal source = .ok text → tokens text = .ok found →
      (∀ value, evaluate source = .ok value → IsExpression (markSigns found)) ∧
      (¬IsExpression (markSigns found) → Rejected source) := by
  intro claimed
  have normalized : normal ['2', ' ', '3', ' ', '+'] = .ok ['2', ' ', '3', ' ', '+'] := by
    decide +kernel
  have lexes : Lexes ['2', ' ', '3', ' ', '+'] [.ofNumeral (digitNumeral '2'),
      .ofNumeral (digitNumeral '3'), Operator.plus.token] := by
    apply Lexes.digit rfl (stops_before_blank rfl)
    apply Lexes.blank rfl
    apply Lexes.digit rfl (stops_before_blank rfl)
    apply Lexes.blank rfl
    exact .symbol rfl .done
  have read := tokens_eq_ok_iff.2 lexes
  have arranges : Arranges (markSigns [.ofNumeral (digitNumeral '2'),
      .ofNumeral (digitNumeral '3'), Operator.plus.token]) (.combined .plus
        (.leaf (.ofNumeral (digitNumeral '2'))) (.leaf (.ofNumeral (digitNumeral '3')))) := by
    unfold Arranges
    decide +kernel
  have value := evaluate_of_arranges normalized read arranges
  have expression := (claimed _ _ _ normalized read).1 _ value
  rw [is_expression_iff_of_arranges read arranges] at expression
  revert expression
  decide +kernel

end Reckoner.Expression
